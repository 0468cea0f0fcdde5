import Templating.Proofs.Independence
import Templating.Proofs.Polls
import Templating.Template

/-!
# Whole renders

A render into a destination is an execution, and then one more flush (`renderTo_eq`, `settle`).
Text in memory takes everything at once: a render into memory leaves what its execution left
there, and that does not depend on what the memory held before (`await_seeded`).
-/

namespace Templating

namespace Blueprint

variable {σ : Type} [Destination σ]

/-- The end of a render into a destination, when its execution ended so. -/
def settle : Outcome Unit → Action σ Unit
  | .misused m => .misuse m
  | .tooDeep => .conclude .tooDeep
  | outcome => do
    let flushed ← Action.flush.attempt
    .conclude (outcome.bind fun _ => flushed)
    .log .renderedToExternal

theorem renderTo_eq (catalog : Catalog) (depth : Nat) (b : Blueprint) (allowed : Option Nat)
    (s : σ) :
    b.renderTo catalog depth allowed s =
      .note (.log (.renderStarted .external))
        (((b.renderCancellable catalog depth allowed s).recast id fun o _ => .ok o).bind
          fun o s => settle o s) := by
  rfl

theorem await_renderTo_state (catalog : Catalog) (depth : Nat) (b : Blueprint)
    (allowed : Option Nat) (s : σ) :
    ((b.renderTo catalog depth allowed).await s).state =
      let ended := (b.renderCancellable catalog depth allowed).await s
      match ended.outcome? with
      | some o => (settle o ended.state).await.state
      | none => ended.state := by
  have whole := Run.await_bind_state
    ((b.renderCancellable catalog depth allowed s).recast id fun o _ => .ok o)
    fun o s => settle o s
  obtain ⟨state, outcome⟩ := Run.await_recast (b.renderCancellable catalog depth allowed s) id
    fun o _ => Outcome.ok o
  rw [state, outcome] at whole
  refine whole.trans ?_
  change _ = match (b.renderCancellable catalog depth allowed s).await.outcome? with
    | some o => (settle o (b.renderCancellable catalog depth allowed s).await.state).await.state
    | none => (b.renderCancellable catalog depth allowed s).await.state
  cases (b.renderCancellable catalog depth allowed s).await.outcome? <;> rfl

/-- A render that is dropped was dropped in its execution, or in what comes after it. -/
theorem drive_renderTo_state (catalog : Catalog) (depth : Nat) (b : Blueprint)
    (allowed : Option Nat) (polls : Nat) (s : σ) :
    let stopped := (b.renderCancellable catalog depth allowed).drive polls s
    ((b.renderTo catalog depth allowed).drive polls s).state =
      match stopped.outcome? with
      | some o => ((settle o stopped.state).drive (polls - stopped.polls)).state
      | none => stopped.state := by
  intro stopped
  cases polls with
  | zero => rfl
  | succ more =>
    have whole := Run.drive_bind_state
      ((b.renderCancellable catalog depth allowed s).recast id fun o _ => .ok o)
      (fun o s => settle o s) more
    rw [Run.drive_recast] at whole
    refine whole.trans ?_
    change _ = match ((b.renderCancellable catalog depth allowed s).drive more).outcome? with
      | some o => _
      | none => ((b.renderCancellable catalog depth allowed s).drive more).state
    cases ((b.renderCancellable catalog depth allowed s).drive more).outcome? <;> rfl

/-- A render ends in what its execution left, or in what the flush made of that. -/
theorem settle_visits (o : Outcome Unit) (s : σ) {P : σ → Prop} (here : P s)
    (flushed : (Action.flush s : Run σ Unit).Visits P) : (settle o s).Visits P := by
  have closed : ∀ o : Outcome Unit, ((do
      let flushed ← Action.flush.attempt
      .conclude (o.bind fun _ => flushed)
      .log .renderedToExternal : Action σ Unit) s).Visits P := by
    intro o
    refine Run.Visits.bind (flushed.recast fun _ later => later) ?_
    intro flushed s' later
    refine Run.Visits.bind (show Run.Visits P (.done _ s') from later) ?_
    exact fun _ _ later => later
  cases o with
  | ok _ => exact closed (.ok ())
  | failed e => exact closed (.failed e)
  | misused m => exact here
  | tooDeep => exact here

/-- A render leaves what its execution left, or, if that ended, what a flush made of it. -/
theorem drive_renderTo_visits (catalog : Catalog) (depth : Nat) (b : Blueprint)
    (allowed : Option Nat) (polls : Nat) (s : σ) {P : σ → Prop} :
    let stopped := (b.renderCancellable catalog depth allowed).drive polls s
    P stopped.state →
      (stopped.outcome? ≠ none → (Action.flush stopped.state : Run σ Unit).Visits P) →
      P ((b.renderTo catalog depth allowed).drive polls s).state := by
  intro stopped here flushed
  refine (congrArg P (drive_renderTo_state catalog depth b allowed polls s)).mpr ?_
  change P (match stopped.outcome? with
    | some o => ((settle o stopped.state).drive (polls - stopped.polls)).state
    | none => stopped.state)
  cases ended : stopped.outcome? with
  | none => exact here
  | some o =>
    have settled : (settle o stopped.state).Visits P :=
      settle_visits o stopped.state here (flushed (by simp [ended]))
    exact settled.drive (polls - stopped.polls)

theorem settle_pauses (atOnce : ∀ s : σ, (Action.flush s : Run σ Unit).pauses = [])
    (o : Outcome Unit) (s : σ) : (settle o s).pauses = [] := by
  have flushed : ((Action.flush s : Run σ Unit).recast id
      fun o _ => (.ok o : Outcome (Outcome Unit))).pauses = [] := by
    rw [Run.pauses_recast, atOnce]
    rfl
  have closed : ∀ (o : Outcome Unit) (s : σ),
      ((Run.done o s).bind fun _ s => Action.log .renderedToExternal s).pauses = [] := by
    intro o s
    cases o <;> rfl
  cases o with
  | ok _ => exact Run.pauses_bind flushed fun _ => closed _
  | failed e => exact Run.pauses_bind flushed fun _ => closed _
  | misused m => rfl
  | tooDeep => rfl

/-- Where no flush waits, a render ends in the poll in which its execution does. -/
theorem drive_renderTo (atOnce : ∀ s : σ, (Action.flush s : Run σ Unit).pauses = [])
    (catalog : Catalog) (depth : Nat) (b : Blueprint) (allowed : Option Nat) (s : σ) (more : Nat) :
    let closed := ((b.renderCancellable catalog depth allowed s).drive more).closed
      fun o s => (settle o s).await
    (b.renderTo catalog depth allowed s).drive more =
      { closed with events := .log (.renderStarted .external) :: closed.events } := by
  intro closed
  rw [renderTo_eq, Run.drive, Run.drive_attempt_bind _ (settle_pauses atOnce)]

/-- Nobody cancels a render that does not wait when it was cancelled by itself: it goes as it does
inside another template. -/
theorem renderCancellable_eq_renderNested (catalog : Catalog) (depth : Nat)
    (b : Blueprint) (s : σ)
    (calm : ∀ task ∈ (execute catalog depth b.config b.body none { sink := s }).pauses,
      task.cancelled = false) :
    b.renderCancellable catalog depth none s = b.renderNested catalog depth s :=
  congrArg (Run.recast Task.sink fun o _ => o) (Run.untilCancelled_eq_self Task.cancelled calm)

/-- A render into the buffer of a template ends by reading what it appended. -/
def readSince (start : Nat) : Action TextBuffer String := do
  match ← .read fun buffer => buffer.since? start with
  | some text =>
    .log (.renderedToBuffer text.utf8ByteSize)
    pure text
  | none => .misuse (.offsetOutsideText start)

/-- How such a render is closed when its execution ended. -/
def closeBuffer (start : Nat) (o : Outcome Unit) (t : TextBuffer) : Driven TextBuffer String :=
  ((Run.done o t).bind fun _ t => readSince start t).await

theorem readSince_pauses (start : Nat) (t : TextBuffer) : (readSince start t).pauses = [] := by
  unfold readSince
  rw [Action.read_bind]
  cases t.since? start <;> rfl

theorem closeBuffer_state (start : Nat) (o : Outcome Unit) (t : TextBuffer) :
    (closeBuffer start o t).state = t := by
  cases o with
  | ok _ =>
    unfold closeBuffer readSince
    rw [Run.bind_ok, Action.read_bind]
    cases t.since? start <;> rfl
  | _ => rfl

theorem closeBuffer_ends (start : Nat) (o : Outcome Unit) (t : TextBuffer) :
    (closeBuffer start o t).outcome? ≠ none := by
  refine Run.await_ends ?_
  cases o with
  | ok _ => exact readSince_pauses start t
  | _ => rfl

/-- The result is the text that was appended. -/
theorem readSince_push (t : TextBuffer) (text : String) :
    readSince t.length (t.push text) =
      .note (.log (.renderedToBuffer text.utf8ByteSize)) (.done (.ok text) (t.push text)) := by
  unfold readSince
  rw [Action.read_bind, t.since?_push text]
  rfl

theorem closeBuffer_push (o : Outcome Unit) (t : TextBuffer) (text : String) :
    (closeBuffer t.length o (t.push text)).outcome? = some (o.map fun _ => text) := by
  cases o with
  | ok _ =>
    unfold closeBuffer
    rw [Run.bind_ok, readSince_push]
    rfl
  | _ => rfl

theorem renderToBuffer_eq (catalog : Catalog) (depth : Nat) (b : Blueprint)
    (allowed : Option Nat) (t : TextBuffer) :
    b.renderToBuffer catalog depth allowed t =
      .note (.log (.renderStarted .buffer))
        ((b.renderCancellable catalog depth allowed t).bind
          fun _ t' => readSince t.length t') := by
  rfl

theorem drive_renderToBuffer (catalog : Catalog) (depth : Nat) (b : Blueprint)
    (allowed : Option Nat) (t : TextBuffer) (more : Nat) :
    let closed := ((b.renderCancellable catalog depth allowed t).drive more).closed
      (closeBuffer t.length)
    (b.renderToBuffer catalog depth allowed t).drive more =
      { closed with events := .log (.renderStarted .buffer) :: closed.events } := by
  intro closed
  rw [renderToBuffer_eq, Run.drive, Run.drive_bind _ fun _ => readSince_pauses t.length]
  rfl

/-- The text that a render delivers to memory when nobody cancels it. -/
def memoryText (catalog : Catalog) (depth : Nat) (b : Blueprint) : String :=
  ((b.renderTo catalog depth none).await ({} : TextBuffer)).state.text

theorem await_renderTo_memory (catalog : Catalog) (depth : Nat) (b : Blueprint)
    (allowed : Option Nat) (t : TextBuffer) :
    ((b.renderTo catalog depth allowed).await t).state =
      ((b.renderCancellable catalog depth allowed).await t).state := by
  rw [await_renderTo_state]
  dsimp only
  split
  · next o ended =>
    have stays := settle_visits o ((b.renderCancellable catalog depth allowed).await t).state
      (P := (· = ((b.renderCancellable catalog depth allowed).await t).state)) rfl rfl
    exact stays.await
  · rfl

end Blueprint

/-- Memory beside memory that held `seed` before. -/
def TextBuffer.seeded (seed : String) : Coupling TextBuffer TextBuffer where
  now b b' := b'.text = seed ++ b.text
  past _ _ := True
  lossy := False
  now_past _ _ _ := trivial

/-- What stood in front of a text stands in front of a longer one. -/
theorem TextBuffer.push_behind {seed : String} {b b' : TextBuffer}
    (same : b'.text = seed ++ b.text) (text : String) :
    (b'.push text).text = seed ++ (b.push text).text := by
  rw [push_text, push_text, same, String.append_assoc]

theorem TextBuffer.seeded_respects (seed : String) : (TextBuffer.seeded seed).Respects where
  write text := ⟨fun same => .done _ (push_behind same text), fun _ => trivial⟩
  writeAsync text := ⟨fun same => .done _ (push_behind same text), fun _ => trivial⟩
  flush := ⟨fun same => .done _ same, fun _ => trivial⟩

namespace Blueprint

/-- What memory held before stands in front of the text, and makes no difference to it. -/
theorem await_seeded (catalog : Catalog) (depth : Nat) (b : Blueprint) (allowed : Option Nat)
    (seed : String) :
    let fresh := (b.renderCancellable catalog depth allowed).await ({} : TextBuffer)
    let seeded := (b.renderCancellable catalog depth allowed).await (⟨seed⟩ : TextBuffer)
    seeded.outcome? = fresh.outcome? ∧ seeded.state.text = seed ++ fresh.state.text := by
  intro fresh seeded
  have follows := renderCancellable_follows (c := TextBuffer.seeded seed) id
    (TextBuffer.seeded_respects seed) catalog depth b allowed
  have start : (TextBuffer.seeded seed).now {} ⟨seed⟩ := by
    change seed = seed ++ ""
    rw [String.append_empty]
  obtain ⟨outcome, text⟩ := (follows.run start).await id
  exact ⟨outcome.symm, text⟩

end Blueprint

end Templating
