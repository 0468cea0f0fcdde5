import Templating.Proofs.RunStates

/-!
# Coupled runs

One action can be performed on two kinds of state. `Run.Follows c r q` says that the run `r` does
on the one kind what `q` does on the other: it ends alike, and waits alike. If `c` is lossy, `r`
may also end without a value while `q` goes on; if it is slow besides, `r` may wait or stall where
`q` does not.

A coupling has two relations. `now s t` holds of states at the same point of the two runs, and
`past s t` of a state of `r` and the present or any later state of `q`. What is reported on the
way is left out of the comparison.
-/

namespace Templating

structure Coupling (σ τ : Type) where
  now : σ → τ → Prop
  past : σ → τ → Prop
  lossy : Prop
  slow : Prop := lossy
  slow_lossy : slow → lossy := by exact id
  now_past : ∀ s t, now s t → past s t

variable {σ τ σ' τ' α β : Type}

namespace Run

inductive Follows (c : Coupling σ τ) : Run σ α → Run τ α → Prop
  | done (o : Outcome α) {s : σ} {t : τ} (same : c.now s t) : Follows c (.done o s) (.done o t)
  | noteLeft (e : Event) {r : Run σ α} {q : Run τ α} (rest : Follows c r q) :
      Follows c (.note e r) q
  | noteRight (e : Event) {r : Run σ α} {q : Run τ α} (rest : Follows c r q) :
      Follows c r (.note e q)
  | pause {s : σ} {t : τ} {r : Unit → Run σ α} {q : Unit → Run τ α} (same : c.now s t)
      (later : (q ()).Visits (c.past s)) (rest : Follows c (r ()) (q ())) :
      Follows c (.pause s r) (.pause t q)
  | stalled {s : σ} {t : τ} (same : c.now s t) : Follows c (.stalled s) (.stalled t)
  | halt (lossy : c.lossy) {o : Outcome α} (halted : o.isOk = false) {s : σ} {q : Run τ α}
      (later : q.Visits (c.past s)) : Follows c (.done o s) q
  | wait (slow : c.slow) {s : σ} {r : Unit → Run σ α} {q : Run τ α}
      (later : q.Visits (c.past s)) (rest : Follows c (r ()) q) : Follows c (.pause s r) q
  | hang (slow : c.slow) {s : σ} {q : Run τ α} (later : q.Visits (c.past s)) :
      Follows c (.stalled s) q

namespace Follows

variable {c : Coupling σ τ} {r : Run σ α} {q : Run τ α}

/-- Every state that `r` shows lies in the past of where `q` ends. -/
theorem visits_past (h : r.Follows c q) : r.Visits fun s => c.past s q.await.state := by
  induction h with
  | done o same => exact c.now_past _ _ same
  | noteLeft e rest ih => exact ih
  | noteRight e rest ih => exact ih
  | pause same later rest ih => exact ⟨later.await, ih⟩
  | stalled same => exact c.now_past _ _ same
  | halt lossy halted later => exact later.await
  | wait slow later rest ih => exact ⟨later.await, ih⟩
  | hang slow later => exact later.await

/-- A value that some number of polls brings is the value of `q`, reached in coupled states. -/
theorem drive_ok (h : r.Follows c q) (more : Nat) (a : α)
    (value : (r.drive more).outcome? = some (.ok a)) :
    q.await.outcome? = some (.ok a) ∧ c.now (r.drive more).state q.await.state := by
  induction h generalizing more with
  | done o same =>
    cases value
    exact ⟨rfl, same⟩
  | noteLeft e rest ih => exact ih more value
  | noteRight e rest ih => exact ih more value
  | pause same later rest ih =>
    cases more with
    | zero => cases value
    | succ more => exact ih more value
  | stalled same => cases value
  | halt lossy halted later =>
    cases value
    cases halted
  | wait slow later rest ih =>
    cases more with
    | zero => cases value
    | succ more => exact ih more value
  | hang slow later => cases value

/-- A run that waits only where `q` does has its value after as many polls as `q`. -/
theorem drive_ok_alike (h : r.Follows c q) (steady : ¬ c.slow) (more : Nat) (a : α)
    (value : (r.drive more).outcome? = some (.ok a)) :
    (q.drive more).outcome? = some (.ok a) ∧ c.now (r.drive more).state (q.drive more).state := by
  induction h generalizing more with
  | done o same =>
    cases value
    exact ⟨rfl, same⟩
  | noteLeft e rest ih => exact ih more value
  | noteRight e rest ih => exact ih more value
  | pause same later rest ih =>
    cases more with
    | zero => cases value
    | succ more => exact ih more value
  | stalled same => cases value
  | halt lossy halted later =>
    cases value
    cases halted
  | wait slow => exact absurd slow steady
  | hang slow => exact absurd slow steady

/-- It never leaves the past of what `q` leaves after as many polls, or after more. -/
theorem drive_past (h : r.Follows c q) (steady : ¬ c.slow) {more later : Nat}
    (le : more ≤ later) : c.past (r.drive more).state (q.drive later).state := by
  induction h generalizing more later with
  | done o same => exact c.now_past _ _ same
  | noteLeft e rest ih => exact ih le
  | noteRight e rest ih => exact ih le
  | pause same ahead rest ih =>
    cases later with
    | zero =>
      obtain rfl := Nat.le_zero.mp le
      exact c.now_past _ _ same
    | succ later =>
      cases more with
      | zero => exact ahead.drive later
      | succ more => exact ih (Nat.le_of_succ_le_succ le)
  | stalled same => exact c.now_past _ _ same
  | halt lossy halted ahead => exact ahead.drive later
  | wait slow => exact absurd slow steady
  | hang slow => exact absurd slow steady

/-- Runs that are coupled without loss end alike. -/
theorem await (h : r.Follows c q) (lossless : ¬ c.lossy) :
    r.await.outcome? = q.await.outcome? ∧ c.now r.await.state q.await.state := by
  induction h with
  | done o same => exact ⟨rfl, same⟩
  | noteLeft e rest ih => exact ih
  | noteRight e rest ih => exact ih
  | pause same later rest ih => exact ih
  | stalled same => exact ⟨rfl, same⟩
  | halt lossy => exact absurd lossy lossless
  | wait slow => exact absurd (c.slow_lossy slow) lossless
  | hang slow => exact absurd (c.slow_lossy slow) lossless

/-- Runs that are coupled without loss show the same at every poll. -/
theorem drive (h : r.Follows c q) (lossless : ¬ c.lossy) (more : Nat) :
    (r.drive more).outcome? = (q.drive more).outcome? ∧
      c.now (r.drive more).state (q.drive more).state := by
  induction h generalizing more with
  | done o same => exact ⟨rfl, same⟩
  | noteLeft e rest ih => exact ih more
  | noteRight e rest ih => exact ih more
  | pause same later rest ih =>
    cases more with
    | zero => exact ⟨rfl, same⟩
    | succ more => exact ih more
  | stalled same => exact ⟨rfl, same⟩
  | halt lossy => exact absurd lossy lossless
  | wait slow => exact absurd (c.slow_lossy slow) lossless
  | hang slow => exact absurd (c.slow_lossy slow) lossless

theorem returns (h : r.Follows c q) {a : α} {s : σ} (value : r.Returns a s) :
    ∃ t, q.Returns a t ∧ c.now s t := by
  induction h with
  | done o same =>
    obtain ⟨rfl, rfl⟩ := (returns_done _ _ _ _).mp value
    exact ⟨_, ⟨rfl, rfl⟩, same⟩
  | noteLeft e rest ih => exact ih value
  | noteRight e rest ih => exact ih value
  | pause same later rest ih => exact ih value
  | stalled same => cases value.1
  | halt lossy halted later =>
    obtain ⟨rfl, rfl⟩ := (returns_done _ _ _ _).mp value
    cases halted
  | wait slow later rest ih => exact ih value
  | hang slow later => cases value.1

theorem bind {k : α → σ → Run σ β} {l : α → τ → Run τ β} (h : r.Follows c q)
    (next : ∀ a s t, c.now s t → (k a s).Follows c (l a t))
    (keep : ∀ a s t, c.past s t → (l a t).Visits (c.past s)) :
    (r.bind k).Follows c (q.bind l) := by
  induction h with
  | done o same =>
    cases o with
    | ok a => exact next a _ _ same
    | failed e => exact .done (.failed e) same
    | misused m => exact .done (.misused m) same
    | tooDeep => exact .done .tooDeep same
  | noteLeft e rest ih => exact .noteLeft e ih
  | noteRight e rest ih => exact .noteRight e ih
  | pause same later rest ih =>
    exact .pause same (later.bind fun a t => keep a _ t) ih
  | stalled same => exact .stalled same
  | halt lossy halted later =>
    obtain ⟨o', halted', ends⟩ := bind_halted k _ halted
    rw [ends]
    exact .halt lossy halted' (later.bind fun a t => keep a _ t)
  | wait slow later rest ih => exact .wait slow (later.bind fun a t => keep a _ t) ih
  | hang slow later => exact .hang slow (later.bind fun a t => keep a _ t)

theorem recast {d : Coupling σ' τ'} {project : σ → σ'} {project' : τ → τ'}
    {conclude : Outcome α → σ → Outcome β} {conclude' : Outcome α → τ → Outcome β}
    (h : r.Follows c q) (lossy : c.lossy → d.lossy) (slow : c.slow → d.slow)
    (now : ∀ s t, c.now s t → d.now (project s) (project' t))
    (past : ∀ s t, c.past s t → d.past (project s) (project' t))
    (same : ∀ o s t, c.now s t → conclude o s = conclude' o t)
    (halts : c.lossy → ∀ o s, o.isOk = false → (conclude o s).isOk = false) :
    (r.recast project conclude).Follows d (q.recast project' conclude') := by
  induction h with
  | @done o s t here =>
    simp only [Run.recast, same o s t here]
    exact .done _ (now s t here)
  | noteLeft e rest ih => exact .noteLeft e ih
  | noteRight e rest ih => exact .noteRight e ih
  | pause here later rest ih =>
    exact .pause (now _ _ here) (later.recast fun t => past _ t) ih
  | stalled here => exact .stalled (now _ _ here)
  | halt l halted later =>
    exact .halt (lossy l) (halts l _ _ halted) (later.recast fun t => past _ t)
  | wait l later rest ih => exact .wait (slow l) (later.recast fun t => past _ t) ih
  | hang l later => exact .hang (slow l) (later.recast fun t => past _ t)

theorem attempt_bind {k : Outcome α → σ → Run σ β} {l : Outcome α → τ → Run τ β}
    (h : r.Follows c q) (next : ∀ o s t, c.now s t → (k o s).Follows c (l o t))
    (keep : ∀ o s t, c.past s t → (l o t).Visits (c.past s))
    (halts : c.lossy → ∀ o, o.isOk = false → ∀ s (q : Run τ β), q.Visits (c.past s) →
      (k o s).Follows c q) :
    ((r.recast id fun o _ => .ok o).bind k).Follows c
      ((q.recast id fun o _ => .ok o).bind l) := by
  have after : ∀ s (q : Run τ α), q.Visits (c.past s) →
      ((q.recast id fun o _ => .ok o).bind l).Visits (c.past s) :=
    fun s q later => (later.recast fun _ past => past).bind fun o t => keep o s t
  induction h with
  | done o same => exact next o _ _ same
  | noteLeft e rest ih => exact .noteLeft e ih
  | noteRight e rest ih => exact .noteRight e ih
  | pause same later rest ih => exact .pause same (after _ _ later) ih
  | stalled same => exact .stalled same
  | halt lossy halted later => exact halts lossy _ halted _ _ (after _ _ later)
  | wait slow later rest ih => exact .wait slow (after _ _ later) ih
  | hang slow later => exact .hang slow (after _ _ later)

theorem firstPoll (h : r.Follows c q) : r.firstPoll.Follows c q.firstPoll := by
  induction h with
  | done o same => exact .done o same
  | noteLeft e rest ih => exact .noteLeft e ih
  | noteRight e rest ih => exact .noteRight e ih
  | pause same later rest ih => exact .done _ same
  | stalled same => exact .done _ same
  | halt lossy halted later => exact .halt lossy halted later.firstPoll
  | wait slow later rest ih => exact .halt (c.slow_lossy slow) rfl later.firstPoll
  | hang slow later => exact .halt (c.slow_lossy slow) rfl later.firstPoll

theorem idle (slow : c.slow) {s : σ} (later : q.Visits (c.past s)) (polls : Nat) :
    (Run.idle s polls : Run σ α).Follows c q := by
  induction polls with
  | zero => exact .wait slow later (.halt (c.slow_lossy slow) rfl later)
  | succ polls ih => exact .wait slow later ih

/-- The caller of `r` may cancel at any poll, the caller of `q` never. -/
theorem untilCancelled_slow {cancelled : σ → Bool} {cancelled' : τ → Bool} (slow : c.slow)
    (same : ∀ s t, c.now s t → cancelled s = cancelled' t) (h : r.Follows c q)
    (allowed : Option Nat) :
    (r.untilCancelled cancelled allowed).Follows c (q.untilCancelled cancelled' none) := by
  have lossy : c.lossy := c.slow_lossy slow
  induction h generalizing allowed with
  | done o here => exact .done o here
  | noteLeft e rest ih => exact .noteLeft e (ih allowed)
  | noteRight e rest ih => exact .noteRight e (ih allowed)
  | @pause s t r q here later rest ih =>
    have after : (if cancelled' t || (none : Option Nat) == some 0 then
        Run.done (.failed .cancelled) t
        else (q ()).untilCancelled cancelled' none : Run τ α).Visits (c.past s) := by
      split
      · exact c.now_past s t here
      · exact later.untilCancelled
    refine .pause here after ?_
    rw [same s t here]
    cases fired : cancelled' t with
    | true => exact .done _ here
    | false =>
      simp only [fired, Bool.false_or] at after
      by_cases caller : allowed = some 0
      · subst caller
        exact .halt lossy rfl after
      · have goesOn : (allowed == some 0) = false := by simpa using caller
        simp only [goesOn, Bool.or_self]
        exact ih (allowed.map (· - 1))
  | @stalled s t here =>
    rw [untilCancelled_stalled, untilCancelled_stalled, same s t here]
    have past : (Run.stalled t : Run τ α).Visits (c.past s) := c.now_past s t here
    cases cancelled' t with
    | true => exact .pause here past (.done _ here)
    | false =>
      cases allowed with
      | none => exact .stalled here
      | some polls => exact .idle slow past polls
  | halt l halted later => exact .halt l halted later.untilCancelled
  | wait l later rest ih =>
    refine .wait l later.untilCancelled ?_
    split
    · exact .halt lossy rfl later.untilCancelled
    · exact ih (allowed.map (· - 1))
  | hang l later =>
    rw [untilCancelled_stalled]
    split
    · exact .idle l later.untilCancelled 0
    · cases allowed with
      | none => exact .hang l later.untilCancelled
      | some polls => exact .idle l later.untilCancelled polls

/-- Both callers cancel at the same poll. -/
theorem untilCancelled {cancelled : σ → Bool} {cancelled' : τ → Bool} (steady : ¬ c.slow)
    (same : ∀ s t, c.now s t → cancelled s = cancelled' t) (h : r.Follows c q)
    (allowed : Option Nat) :
    (r.untilCancelled cancelled allowed).Follows c (q.untilCancelled cancelled' allowed) := by
  induction h generalizing allowed with
  | done o here => exact .done o here
  | noteLeft e rest ih => exact .noteLeft e (ih allowed)
  | noteRight e rest ih => exact .noteRight e (ih allowed)
  | @pause s t r q here later rest ih =>
    have after : (if cancelled' t || allowed == some 0 then Run.done (.failed .cancelled) t
        else (q ()).untilCancelled cancelled' (allowed.map (· - 1)) : Run τ α).Visits
          (c.past s) := by
      split
      · exact c.now_past s t here
      · exact later.untilCancelled
    refine .pause here after ?_
    rw [same s t here]
    split
    · exact .done _ here
    · exact ih (allowed.map (· - 1))
  | @stalled s t here =>
    have idles : ∀ polls, (Run.idle s polls : Run σ α).Follows c (Run.idle t polls) := by
      intro polls
      induction polls with
      | zero => exact .pause here (c.now_past s t here) (.done _ here)
      | succ polls ih => exact .pause here (.idle (c.now_past s t here) polls) ih
    rw [untilCancelled_stalled, untilCancelled_stalled, same s t here]
    split
    · exact idles 0
    · cases allowed with
      | none => exact .stalled here
      | some polls => exact idles polls
  | halt lossy halted later => exact .halt lossy halted later.untilCancelled
  | wait slow => exact absurd slow steady
  | hang slow => exact absurd slow steady

end Follows

end Run

/-- Started in coupled states, the one action follows the other; and the other never leaves the
future of a state. -/
structure Action.Follows (c : Coupling σ τ) (act : Action σ α) (ref : Action τ α) : Prop where
  run : ∀ {s t}, c.now s t → (act s).Follows c (ref t)
  keep : ∀ {s t}, c.past s t → (ref t).Visits (c.past s)

namespace Action.Follows

variable {c : Coupling σ τ} {act : Action σ α} {ref : Action τ α}

theorem conclude (o : Outcome α) : Follows c (conclude o) (conclude o) :=
  ⟨fun same => .done o same, fun later => later⟩

theorem pure (a : α) : Follows c (pure a) (pure a) :=
  conclude (.ok a)

theorem fail (e : RenderError) : Follows c (fail e : Action σ α) (fail e) :=
  conclude (.failed e)

theorem misuse (m : Misuse) : Follows c (misuse m : Action σ α) (misuse m) :=
  conclude (.misused m)

theorem report (e : Event) : Follows c (report e) (report e) :=
  ⟨fun same => .noteLeft e (.noteRight e (.done _ same)), fun later => later⟩

theorem log (entry : LogEntry) : Follows c (log entry) (log entry) :=
  report (.log entry)

theorem read {f : σ → α} {g : τ → α} (same : ∀ s t, c.now s t → f s = g t) :
    Follows c (read f) (read g) where
  run {s t} here := by
    simp only [Action.read, same s t here]
    exact .done _ here
  keep later := later

theorem update {f : σ → σ} {g : τ → τ} (now : ∀ s t, c.now s t → c.now (f s) (g t))
    (past : ∀ s t, c.past s t → c.past s (g t)) : Follows c (update f) (update g) :=
  ⟨fun {s t} here => .done _ (now s t here), fun {s t} later => past s t later⟩

theorem bind {next : α → Action σ β} {next' : α → Action τ β} (h : Follows c act ref)
    (hn : ∀ a, Follows c (next a) (next' a)) : Follows c (act >>= next) (ref >>= next') where
  run same := (h.run same).bind (fun a _ _ => (hn a).run) fun a _ _ => (hn a).keep
  keep later := (h.keep later).bind fun a _ => (hn a).keep

theorem wait (polls : Nat) : Follows c (wait polls) (wait polls) := by
  induction polls with
  | zero => exact pure ()
  | succ polls ih =>
    constructor
    · intro s t same
      exact .pause same (ih.keep (c.now_past s t same)) (ih.run same)
    · intro s t later
      exact ⟨later, ih.keep later⟩

theorem stall : Follows c stall stall :=
  ⟨fun same => .stalled same, fun later => later⟩

theorem firstPoll (h : Follows c act ref) : Follows c act.firstPoll ref.firstPoll :=
  ⟨fun same => (h.run same).firstPoll, fun later => (h.keep later).firstPoll⟩

theorem untilCancelled_slow {cancelled : σ → Bool} {cancelled' : τ → Bool} (slow : c.slow)
    (same : ∀ s t, c.now s t → cancelled s = cancelled' t) (h : Follows c act ref)
    (allowed : Option Nat) :
    Follows c (act.untilCancelled cancelled allowed) (ref.untilCancelled cancelled' none) where
  run {s t} here := by
    have after : ((ref t).untilCancelled cancelled' none).Visits (c.past s) :=
      (h.keep (c.now_past s t here)).untilCancelled
    by_cases atOnce : allowed = some 0
    · simp only [Action.untilCancelled, if_pos atOnce]
      exact .halt (c.slow_lossy slow) rfl after
    · simp only [Action.untilCancelled, if_neg atOnce]
      exact (h.run here).untilCancelled_slow slow same _
  keep later := (h.keep later).untilCancelled

theorem untilCancelled {cancelled : σ → Bool} {cancelled' : τ → Bool} (steady : ¬ c.slow)
    (same : ∀ s t, c.now s t → cancelled s = cancelled' t) (h : Follows c act ref)
    (allowed : Option Nat) :
    Follows c (act.untilCancelled cancelled allowed)
      (ref.untilCancelled cancelled' allowed) where
  run {s t} here := by
    unfold Action.untilCancelled
    split
    · exact .done _ here
    · exact (h.run here).untilCancelled steady same _
  keep {s t} later := by
    unfold Action.untilCancelled
    split
    · exact later
    · exact (h.keep later).untilCancelled

/-- What follows on an attempt sees how it ended. If there is loss, it must not go on where the
attempt ended without a value. -/
theorem attempt_bind {next : Outcome α → Action σ β} {next' : Outcome α → Action τ β}
    (h : Follows c act ref) (hn : ∀ o, Follows c (next o) (next' o))
    (halts : c.lossy → ∀ o, o.isOk = false → ∀ s (q : Run τ β), q.Visits (c.past s) →
      (next o s).Follows c q) :
    Follows c (act.attempt >>= next) (ref.attempt >>= next') where
  run same := (h.run same).attempt_bind (fun o _ _ => (hn o).run) (fun o _ _ => (hn o).keep) halts
  keep later := ((h.keep later).recast fun _ past => past).bind fun o _ => (hn o).keep

/-- Dropped after some polls, it never leaves the past of what the other leaves after as many. -/
theorem drive_past (h : Follows c act ref) (steady : ¬ c.slow) {s : σ} {t : τ}
    (same : c.now s t) {polls later : Nat} (le : polls ≤ later) :
    c.past (act.drive polls s).state (ref.drive later t).state := by
  cases later with
  | zero =>
    obtain rfl := Nat.le_zero.mp le
    exact c.now_past s t same
  | succ later =>
    cases polls with
    | zero => exact (h.keep (c.now_past s t same)).drive later
    | succ more => exact (h.run same).drive_past steady (Nat.le_of_succ_le_succ le)

/-- An action on parts of two states, performed within the whole. The parts are coupled by `d`. -/
theorem focus {d : Coupling σ' τ'} {part : Action σ' α} {part' : Action τ' α}
    {enter : σ → σ'} {leave : σ → σ' → σ} {enter' : τ → τ'} {leave' : τ → τ' → τ}
    (h : Follows d part part') (lossy : d.lossy → c.lossy) (slow : d.slow → c.slow)
    (enters : ∀ s t, c.now s t → d.now (enter s) (enter' t))
    (entersPast : ∀ s t, c.past s t → d.past (enter s) (enter' t))
    (leaves : ∀ s t x y, c.now s t → d.now x y → c.now (leave s x) (leave' t y))
    (leavesPast : ∀ s t x y, c.now s t → d.past x y → c.past (leave s x) (leave' t y))
    (staysPast : ∀ s t y, c.past s t → d.past (enter s) y → c.past s (leave' t y)) :
    Follows c (fun s => (part (enter s)).recast (leave s) fun o _ => o)
      (fun t => (part' (enter' t)).recast (leave' t) fun o _ => o) where
  run {s t} same := (h.run (enters s t same)).recast lossy slow
    (fun x y => leaves s t x y same) (fun x y => leavesPast s t x y same) (fun _ _ _ _ => rfl)
    fun _ _ _ halted => halted
  keep {s t} later := (h.keep (entersPast s t later)).recast fun y => staysPast s t y later

end Action.Follows

end Templating
