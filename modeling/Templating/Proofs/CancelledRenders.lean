import Templating.Destination.Recorder
import Templating.Proofs.Renders

/-!
# Cancelled renders

A render that is polled by hand can be stopped at every poll. Whoever drops it finds what its
polls have left so far, and that only grows. Whoever cancels it first has it end at the next poll
in just that state, unless it has ended before. A body that cancels its own render is stopped in
the same way if it waits, and ends by itself if it does not (`Template.render_cancelled`).
-/

namespace Templating

variable {σ τ α β : Type}

/-- A text that only grows is what it was at first, and then what each step appended. -/
theorem appended_join {held : Nat → String} (grows : ∀ p, ∃ more, held (p + 1) = held p ++ more) :
    ∃ appended : Nat → String, ∀ p,
      held p = held 0 ++ String.join ((List.range p).map appended) := by
  obtain ⟨appended, each⟩ := Classical.skolem.mp grows
  refine ⟨appended, fun p => ?_⟩
  induction p with
  | zero => simp
  | succ p ih => simp [each, ih, List.range_succ, String.append_assoc]

theorem appended_flatMap {ω : Type} {held : Nat → List ω}
    (grows : ∀ p, ∃ more, held (p + 1) = held p ++ more) :
    ∃ appended : Nat → List ω, ∀ p, held p = held 0 ++ (List.range p).flatMap appended := by
  obtain ⟨appended, each⟩ := Classical.skolem.mp grows
  refine ⟨appended, fun p => ?_⟩
  induction p with
  | zero => simp
  | succ p ih => simp [each, ih, List.range_succ, List.append_assoc]

/-- A state beside itself, which only grows. -/
def Coupling.growing (le : σ → σ → Prop) (refl : ∀ s, le s s) : Coupling σ σ where
  now s t := s = t
  past := le
  lossy := False
  now_past s _ same := same ▸ refl s

namespace TextBuffer

def growing : Coupling TextBuffer TextBuffer :=
  .growing (fun b b' => ∃ more, b' = b.push more) fun b => ⟨"", b.push_empty.symm⟩

theorem growing_respects : growing.Respects := by
  have pushed : ∀ (text : String) (b b' : TextBuffer),
      (∃ more, b' = b.push more) → ∃ more, b'.push text = b.push more := by
    rintro text b _ ⟨more, rfl⟩
    exact ⟨more ++ text, b.push_push more text⟩
  exact {
    write := fun text => ⟨fun same => .done _ (congrArg (push · text) same), pushed text _ _⟩
    writeAsync := fun text => ⟨fun same => .done _ (congrArg (push · text) same), pushed text _ _⟩
    flush := ⟨fun same => .done _ same, fun later => later⟩ }

end TextBuffer

namespace Recorder

/-- The recorder `r` may have become `r'`. -/
structure Grows (r r' : Recorder) : Prop where
  taken : ∃ more, r'.taken = r.taken ++ more
  refusesFlush : r'.refusesFlush = r.refusesFlush

theorem Grows.refl (r : Recorder) : r.Grows r :=
  ⟨⟨[], (List.append_nil _).symm⟩, rfl⟩

theorem Grows.trans {r r' r'' : Recorder} (first : r.Grows r') (later : r'.Grows r'') :
    r.Grows r'' := by
  obtain ⟨⟨before, taken⟩, same⟩ := first
  obtain ⟨⟨more, grown⟩, same'⟩ := later
  exact ⟨⟨before ++ more, by rw [grown, taken, List.append_assoc]⟩, same'.trans same⟩

theorem take_grows (kind : WriteKind) (text : String) (r : Recorder) :
    r.Grows (take kind text r).2 := by
  unfold take
  dsimp only
  split
  · exact ⟨⟨[], (List.append_nil _).symm⟩, rfl⟩
  · exact ⟨⟨[(kind, text)], rfl⟩, rfl⟩

def growing : Coupling Recorder Recorder :=
  .growing Grows Grows.refl

theorem growing_respects : growing.Respects := by
  have ofStep : ∀ step : Recorder → Except RenderError Unit × Recorder,
      (∀ r : Recorder, r.Grows (step r).2) →
        Action.Follows growing (.ofStep step) (.ofStep step) := by
    intro step grows
    have stepped : ∀ r : Recorder, (Action.ofStep step r).Visits (r.Grows ·) := by
      intro r
      unfold Action.ofStep
      split
      · next left => exact (congrArg (Grows r ·.2) left).mp (grows r)
      · next left => exact (congrArg (Grows r ·.2) left).mp (grows r)
    refine ⟨?_, fun past => (stepped _).mono fun _ later => Grows.trans past later⟩
    rintro r _ rfl
    unfold Action.ofStep
    split
    · exact .done _ rfl
    · exact .done _ rfl
  refine ⟨fun text => ofStep _ (take_grows .sync text), fun text => ?_, ?_⟩
  · refine .bind (.read fun r _ same => congrArg waits same) fun waits => ?_
    dsimp only
    split
    · exact .bind (.wait 1) fun _ => ofStep _ (take_grows .async text)
    · exact ofStep _ (take_grows .async text)
  · exact ofStep _ fun r => ⟨⟨[], (List.append_nil _).symm⟩, rfl⟩

theorem settle_failed (e : RenderError) (r : Recorder) :
    (Blueprint.settle (.failed e) r).await =
      ⟨[], 1, { r with flushes := r.flushes + 1 }, some (.failed e)⟩ := by
  unfold Blueprint.settle
  dsimp only [bind]
  rw [attempt_flush_eq]
  rfl

theorem settle_taken (o : Outcome Unit) (r : Recorder) :
    (Blueprint.settle o r).await.state.taken = r.taken ∧
      (Blueprint.settle o r).await.outcome? = some (o.bind fun _ =>
        if r.refusesFlush then .failed (.output "flush failed") else .ok ()) := by
  cases o with
  | ok _ =>
    unfold Blueprint.settle
    dsimp only [bind]
    rw [attempt_flush_eq]
    cases r.refusesFlush <;> exact ⟨rfl, rfl⟩
  | failed e =>
    rw [settle_failed]
    exact ⟨rfl, rfl⟩
  | misused m => exact ⟨rfl, rfl⟩
  | tooDeep => exact ⟨rfl, rfl⟩

end Recorder

/-- What a render shows that is polled by hand: `free polls` after so many polls if its caller never
cancels it, and `cut k polls` if the caller cancels it just before poll `k + 1`. `body polls` is
what its execution shows if nobody asks whether it was cancelled. The render is announced by
`opening`; `shown` is the state that it shows of its sink, `settled` what the end of a cancelled
render makes of that, and `own` the result after so many polls of an execution that ended. -/
structure Cancellable (opening : Event) (shown : σ → τ) (settled : τ → τ)
    (own : Nat → Outcome Unit → Outcome β) (body : Nat → Driven (Task σ) Unit)
    (free : Nat → Driven τ β) (cut : Nat → Nat → Driven τ β) : Prop where
  /-- Cancelled while it is under way, it does nothing in the next poll but to end. -/
  stopped : ∀ k polls, k < polls → (free k).outcome? = none →
    cut k polls = {
      events := opening :: (free k).events.tail
      polls := k + 1
      state := settled (free k).state
      outcome? := some (.failed .cancelled) }
  /-- Up to then, and if it has ended by then, nothing shows of the cancellation. -/
  unnoticed : ∀ k polls, polls ≤ k ∨ (free k).outcome? ≠ none → cut k polls = free polls
  /-- It is under way up to the one poll that ends it. -/
  underWay : ∀ last, (free last).outcome? ≠ none →
    ∀ p, (free p).outcome? = none ↔ p < (free last).polls
  /-- A body that ends in the poll in which it cancels the render ends as it likes. -/
  endsItself : ∀ p o, (∀ j < p, (body j).state.cancelled = false) → (body p).outcome? = some o →
    (free p).outcome? = some (own p o) ∧ (free p).polls = (body p).polls
  /-- A body that waits after it cancelled the render is ended by the next poll. -/
  stopsItself : ∀ p polls, (∀ j < p, (body j).state.cancelled = false) →
    (body p).outcome? = none → (body p).state.cancelled = true → p < polls →
    free polls = {
      events := opening :: (body p).events
      polls := p + 1
      state := settled (shown (body p).state.sink)
      outcome? := some (.failed .cancelled) }

namespace Action

variable (cancelled : σ → Bool) (act : Action σ α)

/-- The caller cancels just before poll `k + 1`. -/
theorem drive_untilCancelled_some (s : σ) (k polls : Nat) :
    let free polls := (act.untilCancelled cancelled none).drive polls s
    (act.untilCancelled cancelled (some k)).drive polls s =
      if polls ≤ k ∨ (free k).outcome? ≠ none then free polls else (free k).cancel := by
  cases polls with
  | zero => rfl
  | succ more =>
    cases k with
    | zero => rfl
    | succ k =>
      have cut := (act s).drive_untilCancelled_some cancelled k more
      simpa [drive, Action.untilCancelled, Nat.add_le_add_iff_right] using cut

theorem drive_polls {polls : Nat} {s : σ} (unfinished : (act.drive polls s).outcome? = none) :
    (act.drive polls s).polls = polls := by
  cases polls with
  | zero => rfl
  | succ more => exact Run.drive_polls unfinished

theorem drive_eq_none_iff {last : Nat} {s : σ} (ended : (act.drive last s).outcome? ≠ none)
    (polls : Nat) : (act.drive polls s).outcome? = none ↔ polls < (act.drive last s).polls := by
  cases last with
  | zero => exact absurd rfl ended
  | succ last =>
    cases polls with
    | zero => exact iff_of_true rfl ((act s).drive_polls_pos last)
    | succ more => exact Run.drive_eq_none_iff ended more

theorem drive_untilCancelled_calm {polls : Nat} {s : σ}
    (calm : ∀ j < polls, cancelled (act.drive j s).state = false) :
    (act.untilCancelled cancelled none).drive polls s = act.drive polls s := by
  cases polls with
  | zero => rfl
  | succ more =>
    exact Run.drive_untilCancelled_calm cancelled fun earlier lt =>
      calm (earlier + 1) (Nat.succ_lt_succ lt)

theorem drive_untilCancelled_waiting {last : Nat} {s : σ}
    (calm : ∀ j < last, cancelled (act.drive j s).state = false)
    (started : cancelled s = false) (waiting : (act.drive last s).outcome? = none)
    (fired : cancelled (act.drive last s).state = true) {polls : Nat} (lt : last < polls) :
    (act.untilCancelled cancelled none).drive polls s = (act.drive last s).cancel := by
  cases last with
  | zero => exact absurd (started.symm.trans fired) (by simp)
  | succ last =>
    cases polls with
    | zero => exact absurd lt (Nat.not_lt_zero _)
    | succ more =>
      exact Run.drive_untilCancelled_waiting cancelled
        (fun earlier lt => calm (earlier + 1) (Nat.succ_lt_succ lt)) waiting fired
        (Nat.lt_of_succ_lt_succ lt)

end Action

/-- The caller cancels a render just before poll `k + 1`. -/
theorem Blueprint.drive_renderCancellable_some [Destination σ] (catalog : Catalog) (depth : Nat)
    (b : Blueprint) (s : σ) (k polls : Nat) :
    let free polls := (b.renderCancellable catalog depth none).drive polls s
    (b.renderCancellable catalog depth (some k)).drive polls s =
      if polls ≤ k ∨ (free k).outcome? ≠ none then free polls else (free k).cancel := by
  intro free
  let body : Action (Task σ) Unit := execute catalog depth b.config b.body none
  have free_eq : ∀ polls, free polls = _ := fun polls =>
    Task.drive_isolate (body.untilCancelled Task.cancelled none) polls s
  refine (Task.drive_isolate (body.untilCancelled Task.cancelled (some k)) polls s).trans ?_
  rw [body.drive_untilCancelled_some Task.cancelled _ k polls, free_eq, free_eq]
  dsimp only
  split
  · rfl
  · rfl

namespace Driven

/-- How an execution shows in a whole render, which closes it in its last poll. -/
def within (opening : Event) (shown : σ → τ) (close : Outcome α → σ → Driven σ β)
    (d : Driven σ α) : Driven τ β where
  events := opening :: (d.closed close).events
  polls := (d.closed close).polls
  state := shown (d.closed close).state
  outcome? := (d.closed close).outcome?

variable {opening : Event} {shown : σ → τ} {close : Outcome α → σ → Driven σ β}

theorem within_none {d : Driven σ α} (unfinished : d.outcome? = none) :
    d.within opening shown close = ⟨opening :: d.events, d.polls, shown d.state, none⟩ := by
  simp [within, closed, unfinished]

theorem within_some {d : Driven σ α} {o : Outcome α} (ended : d.outcome? = some o) :
    (d.within opening shown close).outcome? = (close o d.state).outcome? ∧
      (d.within opening shown close).polls = d.polls := by
  simp [within, closed, ended]

/-- Polled by hand, a whole render shows `act`, which it announces first and closes in the end. -/
structure Encloses (opening : Event) (shown : σ → τ) (close : Outcome α → σ → Driven σ β)
    (act : Action σ α) (s : σ) (whole : Nat → Driven τ β) : Prop where
  start : whole 0 = ⟨[], 0, shown s, none⟩
  polled : ∀ more, whole (more + 1) = (act.drive (more + 1) s).within opening shown close

namespace Encloses

variable {act : Action σ α} {s : σ} {whole : Nat → Driven τ β}

theorem of_none (encloses : Encloses opening shown close act s whole) {p : Nat}
    (unfinished : (act.drive p s).outcome? = none) :
    (whole p).events.tail = (act.drive p s).events ∧
      (whole p).state = shown (act.drive p s).state ∧ (whole p).outcome? = none := by
  cases p with
  | zero =>
    rw [encloses.start]
    exact ⟨rfl, rfl, rfl⟩
  | succ more =>
    rw [encloses.polled, within_none unfinished]
    exact ⟨rfl, rfl, rfl⟩

theorem of_some (encloses : Encloses opening shown close act s whole) {p : Nat} {o : Outcome α}
    (ended : (act.drive p s).outcome? = some o) :
    (whole p).outcome? = (close o (act.drive p s).state).outcome? ∧
      (whole p).polls = (act.drive p s).polls := by
  cases p with
  | zero => cases ended
  | succ more =>
    rw [encloses.polled]
    exact within_some ended

/-- What closing the execution does not change is what the execution left. -/
theorem state_eq (encloses : Encloses opening shown close act s whole) {γ : Type} (seen : τ → γ)
    (stays : ∀ o s, seen (shown (close o s).state) = seen (shown s)) (p : Nat) :
    seen (whole p).state = seen (shown (act.drive p s).state) := by
  cases p with
  | zero => rw [encloses.start, Action.drive]
  | succ more =>
    rw [encloses.polled]
    unfold within closed
    split
    · exact stays _ _
    · rfl

/-- The whole render is under way exactly as long as what it encloses. -/
theorem under_way (encloses : Encloses opening shown close act s whole)
    (closes : ∀ o s, (close o s).outcome? ≠ none) (p : Nat) :
    (whole p).outcome? = none ↔ (act.drive p s).outcome? = none := by
  cases ended : (act.drive p s).outcome? with
  | none => simp [(encloses.of_none ended).2.2]
  | some o => simp [(encloses.of_some ended).1, closes]

end Encloses

end Driven

namespace Cancellable

variable [Destination σ] {opening : Event} {shown : σ → τ} {settled : τ → τ}
  {own : Nat → Outcome Unit → Outcome β} {close : Outcome Unit → σ → Driven σ β}

/-- A render can be cancelled at any poll if it closes its execution in its last poll. -/
theorem of_encloses (catalog : Catalog) (depth : Nat) (b : Blueprint) (s : σ)
    {whole : Option Nat → Nat → Driven τ β}
    (encloses : ∀ allowed, Driven.Encloses opening shown close
      (b.renderCancellable catalog depth allowed) s (whole allowed))
    (ends : ∀ o s, (close o s).outcome? ≠ none)
    (closes : ∀ p o, (close o ((b.renderCancellable catalog depth none).drive p s).state).outcome? =
      some (own p o))
    (cancels : ∀ s, (close (.failed .cancelled) s).events = [] ∧
      shown (close (.failed .cancelled) s).state = settled (shown s) ∧
      (close (.failed .cancelled) s).outcome? = some (.failed .cancelled)) :
    Cancellable opening shown settled own
      (fun polls => (execute catalog depth b.config b.body none).drive polls { sink := s })
      (whole none) fun k => whole (some k) := by
  let body : Action (Task σ) Unit := execute catalog depth b.config b.body none
  let free : Action σ Unit := b.renderCancellable catalog depth none
  have free_eq : ∀ polls, free.drive polls s = _ := fun polls =>
    Task.drive_isolate (body.untilCancelled Task.cancelled none) polls s
  have under_way := (encloses none).under_way ends
  have cancel_within : ∀ d : Driven σ Unit, d.cancel.within opening shown close =
      ⟨opening :: d.events, d.polls + 1, settled (shown d.state), some (.failed .cancelled)⟩ := by
    intro d
    obtain ⟨events, state, outcome⟩ := cancels d.state
    simp [Driven.within, Driven.closed, Driven.cancel, events, state, outcome]
  constructor
  case stopped =>
    intro k polls lt unfinished
    have unended : (free.drive k s).outcome? = none := (under_way k).mp unfinished
    obtain ⟨events, state, -⟩ := (encloses none).of_none unended
    obtain ⟨more, rfl⟩ : ∃ more, polls = more + 1 := ⟨polls - 1, by omega⟩
    have late : ¬ (more + 1 ≤ k ∨ (free.drive k s).outcome? ≠ none) :=
      not_or.mpr ⟨Nat.not_le.mpr lt, fun ended => ended unended⟩
    rw [(encloses (some k)).polled, b.drive_renderCancellable_some, if_neg late, cancel_within,
      events, state, free.drive_polls unended]
  case unnoticed =>
    intro k polls early
    cases polls with
    | zero => rw [(encloses _).start, (encloses _).start]
    | succ more =>
      rw [(encloses _).polled, (encloses _).polled, b.drive_renderCancellable_some,
        if_pos (early.imp id (mt (under_way k).mpr))]
  case underWay =>
    intro last ended p
    have unended : (free.drive last s).outcome? ≠ none := mt (under_way last).mpr ended
    obtain ⟨o, outcome⟩ := Option.ne_none_iff_exists'.mp unended
    rw [under_way, ((encloses none).of_some outcome).2]
    exact free.drive_eq_none_iff unended p
  case endsItself =>
    intro p o calm ended
    have shows := free_eq p
    rw [body.drive_untilCancelled_calm Task.cancelled calm] at shows
    have outcome : (free.drive p s).outcome? = some o := by
      rw [shows]
      exact ended
    obtain ⟨result, polls⟩ := (encloses none).of_some outcome
    rw [closes] at result
    refine ⟨result, ?_⟩
    rw [polls, shows]
  case stopsItself =>
    intro p polls calm waiting fired lt
    have shows := free_eq polls
    rw [body.drive_untilCancelled_waiting Task.cancelled calm rfl waiting fired lt] at shows
    obtain ⟨more, rfl⟩ : ∃ more, polls = more + 1 := ⟨polls - 1, by omega⟩
    have elapsed : (body.drive p { sink := s }).polls = p := body.drive_polls waiting
    rw [(encloses none).polled, show (b.renderCancellable catalog depth none).drive _ s = _ from
      shows]
    refine (cancel_within ⟨_, _, _, none⟩).trans ?_
    rw [elapsed]
    rfl

end Cancellable

namespace Blueprint

/-- The text that memory holds of a render grows poll by poll. -/
theorem renderCancellable_appends (catalog : Catalog) (depth : Nat) (b : Blueprint)
    (t : TextBuffer) :
    ∃ appended : Nat → String, ∀ p,
      ((b.renderCancellable catalog depth none).drive p t).state =
        t.push (String.join ((List.range p).map appended)) := by
  let held p := ((b.renderCancellable catalog depth none).drive p t).state.text
  have follows := renderCancellable_follows id TextBuffer.growing_respects catalog depth b none
  have grows : ∀ p, ∃ more, held (p + 1) = held p ++ more := by
    intro p
    obtain ⟨more, grown⟩ := follows.drive_past id rfl (Nat.le_succ p)
    exact ⟨more, congrArg TextBuffer.text grown⟩
  obtain ⟨appended, joined⟩ := appended_join grows
  exact ⟨appended, fun p => congrArg TextBuffer.mk (joined p)⟩

/-- What a recorder took of a render grows poll by poll. -/
theorem renderCancellable_records (catalog : Catalog) (depth : Nat) (b : Blueprint)
    (r : Recorder) :
    (∃ appended : Nat → List (WriteKind × String), ∀ p,
      ((b.renderCancellable catalog depth none).drive p r).state.taken =
        r.taken ++ (List.range p).flatMap appended) ∧
    ∀ p, ((b.renderCancellable catalog depth none).drive p r).state.refusesFlush =
      r.refusesFlush := by
  have follows := renderCancellable_follows id Recorder.growing_respects catalog depth b none
  refine ⟨appended_flatMap fun p => (follows.drive_past id rfl (Nat.le_succ p)).taken, fun p => ?_⟩
  induction p with
  | zero => rfl
  | succ p ih => exact (follows.drive_past id rfl (Nat.le_succ p)).refusesFlush.trans ih

theorem renderTo_encloses [Destination σ]
    (atOnce : ∀ s : σ, (Action.flush s : Run σ Unit).pauses = []) (catalog : Catalog)
    (depth : Nat) (b : Blueprint) (allowed : Option Nat) (s : σ) :
    Driven.Encloses (.log (.renderStarted .external)) id (fun o s => (settle o s).await)
      (b.renderCancellable catalog depth allowed) s
      fun polls => (b.renderTo catalog depth allowed).drive polls s where
  start := rfl
  polled more := b.drive_renderTo atOnce catalog depth allowed s more

end Blueprint

namespace Template

theorem render_encloses (catalog : Catalog) (depth : Nat) (t : Template) (allowed : Option Nat) :
    Driven.Encloses (.log (.renderStarted .buffer)) (fun output => { t with output })
      (Blueprint.closeBuffer t.output.length)
      (t.blueprint.renderCancellable catalog depth allowed) t.output
      fun polls => (render catalog depth allowed).drive polls t where
  start := rfl
  polled more := by
    have whole := Run.drive_recast (t.blueprint.renderToBuffer catalog depth allowed t.output)
      (fun output => ({ t with output } : Template)) (fun o _ => o) more
    rw [t.blueprint.drive_renderToBuffer catalog depth allowed t.output more] at whole
    refine whole.trans ?_
    simp [Driven.within, Action.drive]

/-- A render that is polled by hand, into the template's own buffer or into a recorder, leaves at
each poll what it had left before with something appended, whatever its template does. Its caller
can cancel it at any poll, and so can the template itself, and nothing of it happens in that poll;
cancelled when it has ended, it ends as it does when nobody cancels it. -/
theorem render_cancelled (catalog : Catalog) (depth : Nat) (t : Template) (r : Recorder) :
    (let free polls := (render catalog depth none).drive polls t
      ∃ appended : Nat → String,
        (∀ p, (free p).state = t.pushOutput (String.join ((List.range p).map appended))) ∧
        Cancellable (.log (.renderStarted .buffer)) (fun output => { t with output }) id
          (fun p o => o.map fun _ => String.join ((List.range p).map appended))
          (fun polls => (execute catalog depth t.blueprint.config t.blueprint.body none).drive polls
            { sink := t.output })
          free fun k polls => (render catalog depth (some k)).drive polls t) ∧
    (let free polls := (t.blueprint.renderTo catalog depth none).drive polls r
      ∃ appended : Nat → List (WriteKind × String),
        (∀ p, (free p).state.taken = r.taken ++ (List.range p).flatMap appended) ∧
        Cancellable (.log (.renderStarted .external)) id
          (fun r => { r with flushes := r.flushes + 1 })
          (fun _ o => o.bind fun _ =>
            if r.refusesFlush then .failed (.output "flush failed") else .ok ())
          (fun polls => (execute catalog depth t.blueprint.config t.blueprint.body none).drive polls
            { sink := r })
          free fun k polls => (t.blueprint.renderTo catalog depth (some k)).drive polls r) := by
  constructor
  case left =>
    intro free
    obtain ⟨appended, grown⟩ := t.blueprint.renderCancellable_appends catalog depth t.output
    have encloses := fun allowed => t.render_encloses catalog depth allowed
    refine ⟨appended, fun p => ?_, ?_⟩
    · have left := (encloses none).state_eq id
        (fun o output => by rw [Blueprint.closeBuffer_state]) p
      rw [grown] at left
      exact left
    · refine .of_encloses catalog depth t.blueprint t.output encloses ?_ ?_ ?_
      · exact Blueprint.closeBuffer_ends t.output.length
      · intro p o
        rw [grown]
        exact Blueprint.closeBuffer_push o t.output _
      · exact fun output => ⟨rfl, rfl, rfl⟩
  case right =>
    intro free
    obtain ⟨⟨appended, grown⟩, same⟩ := t.blueprint.renderCancellable_records catalog depth r
    have atOnce : ∀ r : Recorder, (Action.flush r : Run Recorder Unit).pauses = [] := fun r =>
      congrArg Run.pauses r.flush_eq
    have encloses := fun allowed =>
      t.blueprint.renderTo_encloses atOnce catalog depth allowed r
    refine ⟨appended, fun p => ?_, ?_⟩
    · have left := (encloses none).state_eq Recorder.taken (fun o r => (r.settle_taken o).1) p
      exact left.trans (grown p)
    · refine .of_encloses catalog depth t.blueprint r encloses ?_ ?_ ?_
      · exact fun o r => Run.await_ends (Blueprint.settle_pauses atOnce o r)
      · intro p o
        rw [(Recorder.settle_taken o _).2, same]
      · intro r
        rw [r.settle_failed]
        exact ⟨rfl, rfl, rfl⟩

/-- A page that waits, and that cancels its render before it waits again. -/
def pausingPage : Template where
  blueprint :=
    { body := { name := "page", steps := [{ call := .literal "a" }, { call := .wait 1 },
        { call := .literal "b" }, { call := .cancel }, { call := .wait 1 },
        { call := .literal "c" }] } }
  output := { text := "<" }

theorem render_cancelled_pausingPage :
    let catalog : Catalog := fun _ => pausingPage.blueprint
    let cut := (render catalog 1 (some 1)).drive 9 pausingPage
    let free := (render catalog 1 none).drive 9 pausingPage
    (cut.polls = 2 ∧ cut.state = pausingPage.pushOutput "a" ∧
      cut.outcome? = some (.failed .cancelled)) ∧
    free.polls = 3 ∧ free.state = pausingPage.pushOutput "ab" ∧
      free.outcome? = some (.failed .cancelled) := by
  intro catalog cut free
  obtain ⟨⟨appended, left, cancellable⟩, -⟩ :=
    render_cancelled (fun _ => pausingPage.blueprint) 1 pausingPage {}
  have stopped : cut = _ := cancellable.stopped 1 9 (by decide) (by decide +kernel)
  have stopsItself : free = _ := cancellable.stopsItself 2 9 (by decide +kernel)
    (by decide +kernel) (by decide +kernel) (by decide)
  rw [stopped, stopsItself]
  exact ⟨⟨rfl, by decide +kernel, rfl⟩, rfl, by decide +kernel, rfl⟩

end Template

end Templating
