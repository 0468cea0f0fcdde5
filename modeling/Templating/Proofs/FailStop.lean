import Templating.Proofs.FirstFailure
import Templating.Proofs.UnfailingSinks

/-!
# Renders stop at a failing sink

If every body passes on every error, the first call to the sink that fails ends the render: no
write comes after it, only the flush that closes a render, and its error is the result. Up to there
the sink has received what it would have received without failing. One error goes before that of
the sink: if the execution ended with an error of its own and the closing flush is the first call
that fails, then its error is dropped (`Blueprint.render_failStop`,
`Blueprint.render_failStop_ownError`).
-/

namespace Templating

variable {σ ω : Type}

/-- What shows of a render that was polled `polls` times. `whole` is the render, `stopped` and
`audited` are its execution and the render itself into a sink that records its calls, and
`unfailing later` is the render into a sink that never fails, polled `later` times. -/
structure FailStop (delivered : σ → List ω) (polls : Nat) (whole : Driven σ Unit)
    (stopped audited : Driven (Audited σ) Unit) (unfailing : Nat → Driven σ Unit) : Prop where
  /-- The record makes no difference. -/
  recorded : audited.state.sink = whole.state ∧ audited.outcome? = whole.outcome?
  /-- Let `call` be the first that fails. Either it is the last of the execution; then one flush
  is still made, and the render ends with the error of `call` whatever the flush comes to. Or it is
  the closing flush, and the render ends with its error unless the execution had one of its own. -/
  stops : ∀ before call e after, (∀ sent ∈ before, sent.hasFailed = false) →
    audited.state.calls = before ++ { call, outcome? := some (.failed e) } :: after →
    (stopped.state.calls = before ++ [{ call, outcome? := some (.failed e) }] ∧
      (∃ flushed, after = [{ call := .flush, outcome? := some flushed }]) ∧
      whole.outcome? = some (.failed e)) ∨
    (stopped.state.calls = before ∧ call = .flush ∧ after = [] ∧
      ∃ ended, stopped.outcome? = some ended ∧
        whole.outcome? = some (ended.bind fun _ => .failed e))
  /-- What was delivered is what comes first when nothing fails. -/
  beginning : ∀ later, polls ≤ later →
    delivered whole.state <+: delivered (unfailing later).state
  /-- A render that succeeds delivers all of it. -/
  whole : whole.outcome? = some (.ok ()) →
    (unfailing polls).outcome? = some (.ok ()) ∧
      delivered (unfailing polls).state = delivered whole.state

/-- The first failing call of a record is the only one that has only others before it. -/
theorem first_failed_unique {calm before rest after : List Sent} {last failing : Sent}
    (calls : calm ++ last :: rest = before ++ failing :: after)
    (calmBefore : ∀ sent ∈ calm, sent.hasFailed = false) (lastFailed : last.hasFailed = true)
    (before_calm : ∀ sent ∈ before, sent.hasFailed = false) (failed : failing.hasFailed = true) :
    before = calm ∧ failing = last ∧ after = rest := by
  induction calm generalizing before with
  | nil =>
    cases before with
    | nil =>
      cases calls
      exact ⟨rfl, rfl, rfl⟩
    | cons sent before =>
      cases calls
      exact absurd lastFailed (by simp [before_calm])
  | cons sent calm ih =>
    cases before with
    | nil =>
      cases calls
      exact absurd failed (by simp [calmBefore])
    | cons sent' before =>
      obtain ⟨rfl, tails⟩ := List.cons.inj calls
      obtain ⟨rfl, same⟩ := ih tails (fun s member => calmBefore s (List.mem_cons_of_mem _ member))
        fun s member => before_calm s (List.mem_cons_of_mem _ member)
      exact ⟨rfl, same⟩

/-- The first failing call of a render is the last call of its execution, or the closing flush. -/
theorem Blueprint.Settled.stops {a : Audited σ} {ended? outcome? : Option (Outcome Unit)}
    {calls before after : List Sent} {call : SinkCall} {e : RenderError}
    (settled : Settled a.calls ended? outcome? calls)
    (ends : ∀ o, ended? = some o → Audited.alarm.Ends o a)
    (waits : ended? = none → Audited.alarm.quiet a)
    (calm : ∀ sent ∈ before, sent.hasFailed = false)
    (made : calls = before ++ { call, outcome? := some (.failed e) } :: after) :
    (a.calls = before ++ [{ call, outcome? := some (.failed e) }] ∧
      (∃ flushed, after = [{ call := .flush, outcome? := some flushed }]) ∧
      outcome? = some (.failed e)) ∨
    (a.calls = before ∧ call = .flush ∧ after = [] ∧
      ∃ ended, ended? = some ended ∧ outcome? = some (ended.bind fun _ => .failed e)) := by
  let failing : Sent := { call, outcome? := some (.failed e) }
  have member : failing ∈ calls := by simp [made, failing]
  -- the execution cannot have stopped with all its calls in order if these are all
  have unquiet : calls = a.calls → ¬ Audited.alarm.quiet a := fun same quiet =>
    absurd (quiet failing (same ▸ member)) (by simp [failing, Sent.hasFailed])
  cases settled with
  | underWay => exact absurd (waits rfl) (unquiet rfl)
  | broken ended breaks =>
    rcases ends ended rfl with quiet | ⟨e', rfl, -⟩
    · exact absurd quiet (unquiet rfl)
    · cases breaks
  | returned ended flushed returns =>
    rcases ends ended rfl with quiet | ⟨e', rfl, before', call', calm', last⟩
    · -- the closing flush failed
      have flushFailed : Sent.hasFailed { call := .flush, outcome? := some flushed } = true := by
        rcases List.mem_append.mp member with earlier | here
        · exact absurd (quiet failing earlier) (by simp [failing, Sent.hasFailed])
        · rw [← List.mem_singleton.mp here]
          rfl
      obtain ⟨rfl, same, rfl⟩ := first_failed_unique made quiet flushFailed calm rfl
      cases same
      exact .inr ⟨rfl, rfl, rfl, ended, rfl, rfl⟩
    · -- the execution ended with the error of its last call
      rw [last, List.append_assoc] at made
      obtain ⟨rfl, same, rfl⟩ := first_failed_unique made calm' rfl calm rfl
      cases same
      exact .inl ⟨last, ⟨flushed, rfl⟩, rfl⟩

namespace Blueprint

variable [Destination σ]

theorem renderTo_ends (catalog : Catalog) (depth : Nat) (b : Blueprint) (allowed : Option Nat)
    (polls : Nat) (sink : σ) (bodyPropagates : b.body.Propagates)
    (catalogPropagates : catalog.Propagates) :
    let stopped := (b.renderCancellable catalog depth allowed).drive polls ({ sink } : Audited σ)
    (∀ o, stopped.outcome? = some o → Audited.alarm.Ends o stopped.state) ∧
      (stopped.outcome? = none → Audited.alarm.quiet stopped.state) := by
  have quiet : Audited.alarm.quiet ({ sink } : Audited σ) := fun _ member => nomatch member
  cases polls with
  | zero => exact ⟨nofun, fun _ => quiet⟩
  | succ more =>
    exact (renderCancellable_stopsAt Audited.alarm_heeded catalog depth b allowed bodyPropagates
      catalogPropagates _ quiet).drive more

variable {delivered : σ → List ω} {unfailing : σ → σ}

/-- Whatever the closing flush comes to, nothing is delivered after the execution. -/
theorem delivered_renderTo (twins : Twinned delivered unfailing) (catalog : Catalog)
    (depth : Nat) (b : Blueprint) (allowed : Option Nat) (polls : Nat) (sink : σ) :
    delivered ((b.renderTo catalog depth allowed).drive polls sink).state =
      delivered ((b.renderCancellable catalog depth allowed).drive polls sink).state :=
  drive_renderTo_visits catalog depth b allowed polls sink (P := (delivered · = _)) rfl
    fun _ => twins.flushKeeps _

theorem renderCancellable_beside (twins : Twinned delivered unfailing) (catalog : Catalog)
    (depth : Nat) (b : Blueprint) (allowed : Option Nat) (bodyPropagates : b.body.Propagates)
    (catalogPropagates : catalog.Propagates) :
    Action.Follows (.besideUnfailing delivered unfailing)
      (b.renderCancellable catalog depth allowed) (b.renderCancellable catalog depth allowed) :=
  renderCancellable_follows_steady id twins.respects catalog depth b allowed
    (fun _ => bodyPropagates) fun _ => catalogPropagates

/-- A render that succeeds goes into the unfailing sink as it goes into its own. -/
theorem renderTo_whole (twins : Twinned delivered unfailing) (catalog : Catalog) (depth : Nat)
    (b : Blueprint) (allowed : Option Nat) (polls : Nat) (sink : σ)
    (bodyPropagates : b.body.Propagates) (catalogPropagates : catalog.Propagates)
    (ok : ((b.renderTo catalog depth allowed).drive polls sink).outcome? = some (.ok ())) :
    let twin := (b.renderTo catalog depth allowed).drive polls (unfailing sink)
    twin.outcome? = some (.ok ()) ∧
      delivered twin.state =
        delivered ((b.renderTo catalog depth allowed).drive polls sink).state := by
  intro twin
  cases polls with
  | zero => cases ok
  | succ more =>
    have follows := renderCancellable_beside twins catalog depth b allowed bodyPropagates
      catalogPropagates
    have atOnce := twins.flushesAtOnce
    have executed := ((drive_renderTo_ok atOnce catalog depth b allowed (more + 1) sink).mp ok).1
    obtain ⟨value, last, same⟩ :=
      (follows.run ⟨rfl, twins.same sink⟩).drive_ok_alike id more () executed
    refine ⟨(drive_renderTo_ok atOnce ..).mpr ⟨value, ?_⟩, ?_⟩
    · have twinLast : ((b.renderCancellable catalog depth allowed).drive (more + 1)
          (unfailing sink)).state = unfailing _ := last
      rw [twinLast]
      exact twins.flushSucceeds _
    · rw [delivered_renderTo twins, delivered_renderTo twins]
      exact same

/-- The render stops at the first call to this sink that fails. -/
def FailStops (catalog : Catalog) (depth : Nat) (b : Blueprint) (allowed : Option Nat)
    (polls : Nat) (delivered : σ → List ω) (unfailing : σ → σ) (sink : σ) : Prop :=
  FailStop delivered polls ((b.renderTo catalog depth allowed).drive polls sink)
    ((b.renderCancellable catalog depth allowed).drive polls { sink })
    ((b.renderTo catalog depth allowed).drive polls { sink })
    fun later => (b.renderTo catalog depth allowed).drive later (unfailing sink)

theorem failStops_of_twinned (twins : Twinned delivered unfailing) (catalog : Catalog)
    (depth : Nat) (b : Blueprint) (allowed : Option Nat) (polls : Nat) (sink : σ)
    (bodyPropagates : b.body.Propagates) (catalogPropagates : catalog.Propagates) :
    b.FailStops catalog depth allowed polls delivered unfailing sink := by
  obtain ⟨same, state⟩ := drive_renderTo_unrecorded catalog depth b allowed polls sink []
  obtain ⟨ends, waits⟩ := renderTo_ends catalog depth b allowed polls sink bodyPropagates
    catalogPropagates
  have settled := drive_renderTo_settled twins.flushesAtOnce catalog depth b allowed polls
    ({ sink } : Audited σ)
  refine ⟨⟨state, same.symm⟩, fun before call e after calm calls => ?_, fun later le => ?_,
    renderTo_whole twins catalog depth b allowed polls sink bodyPropagates catalogPropagates⟩
  · rw [same]
    exact settled.stops ends waits calm calls
  · rw [delivered_renderTo twins, delivered_renderTo twins]
    exact (renderCancellable_beside twins catalog depth b allowed bodyPropagates
      catalogPropagates).drive_past id ⟨rfl, twins.same sink⟩ le

/-- Renders stop at the first call that fails, whether the sink is a recorder, a recorder of which
any other calls fail as well, or a blocking sink over a writer of any script, and at whatever poll
the render is cancelled or dropped. -/
theorem render_failStop (catalog : Catalog) (depth : Nat) (b : Blueprint) (allowed : Option Nat)
    (polls : Nat) (bodyPropagates : b.body.Propagates) (catalogPropagates : catalog.Propagates) :
    (∀ sink : Recorder, b.FailStops catalog depth allowed polls Recorder.delivered
      Recorder.unfailing sink) ∧
    (∀ sink : Faulty Recorder, b.FailStops catalog depth allowed polls (·.sink.delivered)
      (Faulty.unfailing Recorder.unfailing) sink) ∧
    (∀ sink : BlockingSink, b.FailStops catalog depth allowed polls BlockingSink.delivered
      BlockingSink.unfailing sink) :=
  ⟨fun sink => failStops_of_twinned Recorder.twinned catalog depth b allowed polls sink
      bodyPropagates catalogPropagates,
    fun sink => failStops_of_twinned (Faulty.twinned Recorder.twinned) catalog depth b allowed polls
      sink bodyPropagates catalogPropagates,
    fun sink => failStops_of_twinned BlockingSink.twinned catalog depth b allowed polls sink
      bodyPropagates catalogPropagates⟩

/-- A page around a template that writes two texts. -/
def twoTextsPage : Blueprint :=
  { body := { name := "page", steps := [{ call := .literal "a" },
      { call := .templateAsync "item" }, { call := .literal "d" }] } }

def twoTextsItem : Blueprint :=
  { body := { name := "item", steps := [{ call := .literal "b" }, { call := .literal "c" }] } }

/-- The second text of the nested template is refused, and the flush fails as well. -/
theorem render_failStop_twoTexts :
    let catalog : Catalog := fun _ => twoTextsItem
    let sink : Recorder := { refusals := [2], refusesFlush := true }
    let plain := (twoTextsPage.renderTo catalog 2 none).drive 1 sink
    let audited := (twoTextsPage.renderTo catalog 2 none).drive 1 ({ sink } : Audited Recorder)
    twoTextsPage.body.Propagates ∧ catalog.Propagates ∧
      audited.state.calls = [
        { call := .write "a", outcome? := some (.ok ()) },
        { call := .write "b", outcome? := some (.ok ()) },
        { call := .write "c", outcome? := some (.failed (.output "sink failed")) },
        { call := .flush, outcome? := some (.failed (.output "flush failed")) }] ∧
      plain.outcome? = some (.failed (.output "sink failed")) ∧
      plain.state.text = "ab" := by
  intro catalog sink plain audited
  have bodyPropagates : twoTextsPage.body.Propagates := by decide
  have itemPropagates : twoTextsItem.body.Propagates := by decide
  have calls : audited.state.calls = [
      { call := .write "a", outcome? := some (.ok ()) },
      { call := .write "b", outcome? := some (.ok ()) },
      { call := .write "c", outcome? := some (.failed (.output "sink failed")) },
      { call := .flush, outcome? := some (.failed (.output "flush failed")) }] := by
    decide +kernel
  obtain ⟨render, -, -⟩ := render_failStop catalog 2 twoTextsPage none 1 bodyPropagates
    fun _ => itemPropagates
  have outcome : plain.outcome? = some (.failed (.output "sink failed")) := by
    rcases (render sink).stops [_, _] (.write "c") _ _ (by decide) calls with
      ⟨-, -, outcome⟩ | ⟨-, flushes, -⟩
    · exact outcome
    · cases flushes
  exact ⟨bodyPropagates, fun _ => itemPropagates, calls, outcome, by decide +kernel⟩

/-- A page that fails by itself. -/
def failingPage : Blueprint :=
  { body := { name := "page", steps := [{ call := .fail (.body "no model" []) }] } }

/-- The only call that fails is the closing flush, but the body had failed before. -/
theorem render_failStop_ownError :
    let catalog : Catalog := fun _ => failingPage
    let audited := (failingPage.renderTo catalog 1 none).drive 1
      ({ sink := { refusesFlush := true } } : Audited Recorder)
    failingPage.body.Propagates ∧ catalog.Propagates ∧
      audited.state.calls =
        [{ call := .flush, outcome? := some (.failed (.output "flush failed")) }] ∧
      audited.outcome? = some (.failed (.body "no model" [])) ∧
      audited.outcome? ≠ some (.failed (.output "flush failed")) := by
  have bodyPropagates : failingPage.body.Propagates := by decide
  exact ⟨bodyPropagates, fun _ => bodyPropagates, by decide +kernel⟩

end Blueprint

end Templating
