import Templating.Destination.Recorder
import Templating.Proofs.Erasure
import Templating.Proofs.WillingWriters

/-!
# What asynchrony leaves of the text

A destination that never fails gets from a render, however often that waits and in whatever pieces
the destination takes the text, what the templates come to in memory, without anything
asynchronous, in a single poll (`Template.erased_render`). The destinations are memory, a recorder
that refuses nothing, and a sink with a writer that fails at nothing but may be slow and take texts
in pieces; such a sink ends with nothing staged.
-/

namespace Templating

open ScriptedWriter (utf8)

variable {σ τ α β : Type}

/-- A run that gives a value completes with it, if it completes. -/
theorem Run.Completes.eq_of_returns {r : Run σ α} {o : Outcome α} {a : α} {s s' : σ}
    (completes : r.Completes o s') (returns : r.Returns a s) : o = .ok a ∧ s' = s := by
  obtain ⟨ended, left, -⟩ := Run.completes_iff.mp completes
  exact ⟨Option.some.inj (ended.symm.trans returns.1), left.symm.trans returns.2⟩

/-- What a run gives at once, a run that follows without loss gives at once too. -/
theorem Run.Follows.gives {c : Coupling σ τ} {r : Run σ α} {q : Run τ α} (h : r.Follows c q)
    (lossless : ¬ c.lossy) {o : Outcome α} {s : σ} (given : r.Gives o s) :
    ∃ t, q.Gives o t ∧ c.now s t := by
  induction h with
  | done o same =>
    obtain ⟨rfl, rfl⟩ := given
    exact ⟨_, ⟨rfl, rfl⟩, same⟩
  | noteLeft e rest ih => exact ih given
  | noteRight e rest ih => exact ih given
  | pause => exact given.elim
  | stalled => exact given.elim
  | halt lossy => exact absurd lossy lossless
  | wait slow => exact absurd (c.slow_lossy slow) lossless
  | hang slow => exact absurd (c.slow_lossy slow) lossless

namespace Recorder

/-- A recorder that refuses nothing over memory that lacks what the recorder took before. -/
def beyond (before : String) : Coupling Recorder TextBuffer where
  now r b := r.refusals = [] ∧ r.refusesFlush = false ∧ r.text = before ++ b.text
  past _ _ := True
  lossy := False
  now_past _ _ _ := trivial

theorem beyond_hastens (before : String) : (beyond before).Hastens := by
  have takes : ∀ kind text, Action.Erases False (beyond before)
      (.ofStep (take kind text)) (Action.write text) := by
    intro kind text
    constructor
    rintro r b ⟨refusals, refusesFlush, same⟩ o r' completes -
    have taken : Action.ofStep (take kind text) r =
        .done (.ok ()) { r with writes := r.writes + 1, taken := r.taken ++ [(kind, text)] } := by
      simp [Action.ofStep, take, refusals]
    rw [taken] at completes
    obtain ⟨rfl, rfl⟩ := completes
    refine ⟨b.push text, ⟨rfl, rfl⟩, refusals, refusesFlush, ?_⟩
    rw [TextBuffer.push, ← String.append_assoc, ← same]
    simp [Recorder.text]
  refine ⟨takes .sync, fun text => ?_, ?_⟩
  · constructor
    intro r b same o r' completes compared
    have taken : (Action.ofStep (take .async text) r).Completes o r' := by
      rw [writeAsync_eq] at completes
      split at completes
      · exact completes
      · exact completes
    exact (takes .async text).brings same taken compared
  · constructor
    rintro r b ⟨refusals, refusesFlush, same⟩ o r' completes -
    rw [flush_eq, refusesFlush] at completes
    obtain ⟨rfl, rfl⟩ := completes
    exact ⟨b, ⟨rfl, rfl⟩, refusals, rfl, same⟩

end Recorder

namespace StagedSink

/-- A sink over a willing writer, over memory that lacks what the sink held before. -/
def beyond (before : List UInt8) : Coupling StagedSink TextBuffer where
  now s b := s.writer.isWilling = true ∧ s.held = before ++ utf8 b.text
  past _ _ := True
  lossy := False
  now_past _ _ _ := trivial

theorem beyond_hastens (before : List UInt8) : (beyond before).Hastens := by
  have pushed : ∀ {s s' : StagedSink} {b : TextBuffer} {text : String},
      s.held = before ++ utf8 b.text → s'.held = s.held ++ utf8 text →
        s'.held = before ++ utf8 (b.push text).text := by
    intro s s' b text same more
    rw [more, same, TextBuffer.push, ScriptedWriter.utf8_append, List.append_assoc]
  refine ⟨fun text => ⟨?_⟩, fun text => ⟨?_⟩, ⟨?_⟩⟩
  · rintro s b ⟨willing, same⟩ o s' ⟨rfl, rfl⟩ -
    refine ⟨b.push text, ⟨rfl, rfl⟩, willing, pushed same ?_⟩
    rw [held, stage, ScriptedWriter.utf8_append, ← List.append_assoc]
    rfl
  · rintro s b ⟨willing, same⟩ o s' completes -
    obtain ⟨w, returns, still, accepted⟩ := writeAsync_returns text willing
    obtain ⟨rfl, rfl⟩ := completes.eq_of_returns returns
    exact ⟨b.push text, ⟨rfl, rfl⟩, still, pushed same ((held_unstaged w).trans accepted)⟩
  · rintro s b ⟨willing, same⟩ o s' completes -
    obtain ⟨w, returns, still, accepted⟩ := flush_returns willing
    obtain ⟨rfl, rfl⟩ := completes.eq_of_returns returns
    exact ⟨b, ⟨rfl, rfl⟩, still, by rw [held_unstaged, accepted, same]⟩

theorem flush_completes {s s' : StagedSink} (willing : s.writer.isWilling = true)
    {o : Outcome Unit} (completes : (Action.flush s).Completes o s') :
    s'.staged = "" ∧ s'.writer.accepted = s.held := by
  obtain ⟨w, returns, -, accepted⟩ := flush_returns willing
  obtain ⟨-, rfl⟩ := completes.eq_of_returns returns
  exact ⟨rfl, accepted⟩

end StagedSink

/-- The call came back. -/
def Outcome.returned : Outcome α → Bool
  | ok _ | failed _ => true
  | _ => false

namespace Blueprint

variable [Destination σ]

/-- All that a render does before its caller cancels it, or it cancels itself. -/
def execution (catalog : Catalog) (depth : Nat) (b : Blueprint) (s : σ) : Run (Task σ) Unit :=
  execute catalog depth b.config b.body none { sink := s }

/-- A render that returned did so as its execution, after one more flush. -/
theorem settle_completes {c : Coupling σ TextBuffer} (hastens : c.Hastens) {s s' : σ}
    {b : TextBuffer} (same : c.now s b) {o o' : Outcome Unit}
    (settled : (settle o s).Completes o' s') (returned : o'.returned = true) :
    o' = o ∧ c.now s' b ∧ (Action.flush s).Completes (.ok ()) s' := by
  have closed : ∀ o : Outcome Unit, ((do
      let flushed ← Action.flush.attempt
      .conclude (o.bind fun _ => flushed)
      .log .renderedToExternal : Action σ Unit) s).Completes o' s' →
      o' = o ∧ c.now s' b ∧ (Action.flush s).Completes (.ok ()) s' := by
    intro o completes
    rcases completes.of_bind with ⟨flushed, s₁, attempted, ended⟩ | ⟨halted, attempted, passed⟩
    · obtain ⟨_, _, flushes, ⟨⟩, rfl⟩ := attempted.of_recast
      obtain ⟨_, ⟨rfl, rfl⟩, there⟩ := hastens.flush.brings same flushes (.inl trivial)
      cases o with
      | ok _ =>
        obtain ⟨-, rfl, rfl⟩ := ended
        exact ⟨rfl, there, flushes⟩
      | _ =>
        obtain ⟨rfl, rfl⟩ := ended
        exact ⟨rfl, there, flushes⟩
    · obtain ⟨_, _, -, rfl, -⟩ := attempted.of_recast
      cases passed
  cases o with
  | ok _ => exact closed (.ok ()) settled
  | failed e => exact closed (.failed e) settled
  | misused m =>
    obtain ⟨rfl, -⟩ := settled
    cases returned
  | tooDeep =>
    obtain ⟨rfl, -⟩ := settled
    cases returned

/-- The execution of a render that its token does not stop. -/
theorem renderCancellable_erases {c : Coupling σ TextBuffer} (hastens : c.Hastens)
    (catalog : Catalog) (depth : Nat) (b : Blueprint) {s s' : σ} (same : c.now s {})
    (calm : ∀ task ∈ (b.execution catalog depth s).pauses, task.cancelled = false)
    {o : Outcome Unit} (completes : (b.renderCancellable catalog depth none s).Completes o s') :
    ∃ text, (b.erase.renderNested catalog.erase depth ({} : TextBuffer)).Gives o ⟨text⟩ ∧
      c.now s' ⟨text⟩ := by
  rw [renderCancellable_eq_renderNested catalog depth b s calm] at completes
  have erases : Action.Erases True c (b.renderNested catalog depth)
      (b.erase.renderNested catalog.erase depth) :=
    .isolate (execute_erases catalog depth hastens b.config b.body none)
  obtain ⟨⟨text⟩, gives, there⟩ := erases.brings same completes (.inl trivial)
  exact ⟨text, gives, there⟩

theorem renderTo_erases {c : Coupling σ TextBuffer} (hastens : c.Hastens) (catalog : Catalog)
    (depth : Nat) (b : Blueprint) {s s' : σ} (same : c.now s {})
    (calm : ∀ task ∈ (b.execution catalog depth s).pauses, task.cancelled = false)
    {o : Outcome Unit} (completes : (b.renderTo catalog depth none s).Completes o s')
    (returned : o.returned = true) :
    ∃ text, (b.erase.renderNested catalog.erase depth ({} : TextBuffer)).Gives o ⟨text⟩ ∧
      c.now s' ⟨text⟩ ∧ ∃ left, c.now left ⟨text⟩ ∧ (Action.flush left).Completes (.ok ()) s' := by
  rw [renderTo_eq] at completes
  rcases completes.2.of_bind with ⟨_, _, attempted, settled⟩ | ⟨halted, attempted, passed⟩
  · obtain ⟨_, _, executed, ⟨⟩, rfl⟩ := attempted.of_recast
    obtain ⟨text, gives, there⟩ :=
      b.renderCancellable_erases hastens catalog depth same calm executed
    obtain ⟨rfl, after, flushed⟩ := settle_completes hastens there settled returned
    exact ⟨text, gives, after, _, there, flushed⟩
  · obtain ⟨_, _, -, rfl, -⟩ := attempted.of_recast
    cases passed

end Blueprint

namespace Template

/-- The template with everything asynchronous taken out of its body. -/
def erase (t : Template) : Template :=
  { t with blueprint := t.blueprint.erase }

/-- Rendered into its own buffer, the template appends this text and ends so, in a single poll. -/
structure RendersAtOnce (catalog : Catalog) (depth : Nat) (t : Template) (o : Outcome String)
    (text : String) : Prop where
  polls : ((render catalog depth none).await t).polls = 1
  state : ((render catalog depth none).await t).state = t.pushOutput text
  outcome : ((render catalog depth none).await t).outcome? = some o

theorem rendersAtOnce_of_gives {catalog : Catalog} {depth : Nat} {t : Template} {o : Outcome Unit}
    {text : String}
    (gives : (t.blueprint.renderNested catalog depth ({} : TextBuffer)).Gives o ⟨text⟩) :
    t.RendersAtOnce catalog depth (o.map fun _ => text) text := by
  -- the same happens behind what the buffer of the template holds
  have follows : Action.Follows (TextBuffer.seeded t.output.text)
      (t.blueprint.renderNested catalog depth) (t.blueprint.renderNested catalog depth) :=
    .isolate (execute_follows catalog depth (TextBuffer.seeded_respects t.output.text) _ _ none
      (fun lossy => lossy.elim) fun lossy => lossy.elim)
  have start : (TextBuffer.seeded t.output.text).now {} t.output :=
    (String.append_empty ..).symm
  obtain ⟨⟨held⟩, executed, rfl⟩ := (follows.run start).gives id gives
  have unwaiting : (t.blueprint.execution catalog depth t.output).pauses = [] := by
    have pauses := (Run.gives_iff.mp executed).1
    exact List.map_eq_nil_iff.mp ((Run.pauses_recast _ _ _).symm.trans pauses)
  have calm : ∀ task ∈ (t.blueprint.execution catalog depth t.output).pauses,
      task.cancelled = false := by simp [unwaiting]
  rw [← t.blueprint.renderCancellable_eq_renderNested catalog depth t.output calm] at executed
  have whole : (t.blueprint.renderToBuffer catalog depth none t.output).Gives
      (o.map fun _ => text) (t.output.push text) := by
    rw [Blueprint.renderToBuffer_eq]
    cases o with
    | ok _ =>
      have read : (Blueprint.readSince t.output.length (t.output.push text)).Gives (.ok text)
          (t.output.push text) := by
        rw [Blueprint.readSince_push]
        exact ⟨rfl, rfl⟩
      exact executed.bind read
    | _ => exact executed.bind_passOn rfl
  have rendered : (render catalog depth none t).Gives (o.map fun _ => text) (t.pushOutput text) :=
    whole.recast
  obtain ⟨quiet, outcome, state⟩ := Run.gives_iff.mp rendered
  exact ⟨Run.await_polls quiet, state, outcome⟩

/-- A render into the own buffer that its token does not stop. -/
theorem render_erases (catalog : Catalog) (depth : Nat) (t : Template)
    (calm : ∀ task ∈ (t.blueprint.execution catalog depth t.output).pauses,
      task.cancelled = false)
    {o : Outcome String} {t' : Template}
    (completes : (render catalog depth none t).Completes o t') :
    ∃ text, t' = t.pushOutput text ∧ t.erase.RendersAtOnce catalog.erase depth o text := by
  have start : (TextBuffer.beyond t.output.text).now t.output {} := (String.append_empty ..).symm
  have executed : ∀ {o : Outcome Unit} {b : TextBuffer},
      (t.blueprint.renderCancellable catalog depth none t.output).Completes o b →
      ∃ text, b = t.output.push text ∧
        t.erase.RendersAtOnce catalog.erase depth (o.map fun _ => text) text := by
    intro o b completes
    obtain ⟨text, gives, there⟩ := t.blueprint.renderCancellable_erases
      (TextBuffer.beyond_hastens t.output.text) catalog depth start calm completes
    exact ⟨text, congrArg TextBuffer.mk there, rendersAtOnce_of_gives gives⟩
  obtain ⟨_, b, whole, rfl, rfl⟩ := completes.of_recast
  rw [Blueprint.renderToBuffer_eq] at whole
  rcases whole.2.of_bind with ⟨_, b₁, core, read⟩ | ⟨halted, core, passed⟩
  · obtain ⟨text, rfl, renders⟩ := executed core
    rw [Blueprint.readSince_push] at read
    obtain ⟨-, rfl, rfl⟩ := read
    exact ⟨text, rfl, renders⟩
  · obtain ⟨text, rfl, renders⟩ := executed core
    refine ⟨text, rfl, ?_⟩
    cases halted <;> cases passed <;> exact renders

end Template

/-- A driven render returned so; its own token did not fire, and every call in a body succeeded. -/
structure Untroubled (execution : Run (Task σ) Unit) (d : Driven τ α) (o : Outcome α) : Prop where
  calm : ∀ task ∈ execution.pauses, task.cancelled = false
  outcome : d.outcome? = some o
  returned : o.returned = true
  succeeded : ∀ e ∈ d.events, e.succeeded = true

namespace Template

/-- A render during which every call of every body succeeds delivers to a destination that never
fails what the templates append to the own buffer, in one poll, with everything asynchronous taken
out of them and of their layouts; and they end alike. The destination may be the own buffer too. A
sink with a writer that is slow, or takes texts in pieces, ends with nothing staged. -/
theorem erased_render (catalog : Catalog) (depth : Nat) (t : Template) :
    (∀ o, Untroubled (t.blueprint.execution catalog depth t.output)
        ((render catalog depth none).await t) o →
      ∃ text, ((render catalog depth none).await t).state = t.pushOutput text ∧
        t.erase.RendersAtOnce catalog.erase depth o text) ∧
    (∀ (b : TextBuffer) (o : Outcome Unit),
      let d := (t.blueprint.renderTo catalog depth none).await b
      Untroubled (t.blueprint.execution catalog depth b) d o →
      ∃ text, d.state = b.push text ∧
        t.erase.RendersAtOnce catalog.erase depth (o.map fun _ => text) text) ∧
    (∀ (r : Recorder) (o : Outcome Unit), r.refusals = [] → r.refusesFlush = false →
      let d := (t.blueprint.renderTo catalog depth none).await r
      Untroubled (t.blueprint.execution catalog depth r) d o →
      ∃ text, d.state.text = r.text ++ text ∧
        t.erase.RendersAtOnce catalog.erase depth (o.map fun _ => text) text) ∧
    ∀ (s : StagedSink) (o : Outcome Unit), s.writer.isWilling = true →
      let d := (t.blueprint.renderTo catalog depth none).await s
      Untroubled (t.blueprint.execution catalog depth s) d o →
      ∃ text, d.state.writer.accepted = s.writer.accepted ++ utf8 s.staged ++ utf8 text ∧
        d.state.staged = "" ∧
        t.erase.RendersAtOnce catalog.erase depth (o.map fun _ => text) text := by
  refine ⟨?_, ?_, ?_, ?_⟩
  · intro o h
    have completes := Run.completes_iff.mpr ⟨h.outcome, rfl, h.succeeded⟩
    exact t.render_erases catalog depth h.calm completes
  · intro b o d h
    have completes := Run.completes_iff.mpr ⟨h.outcome, rfl, h.succeeded⟩
    have start : (TextBuffer.beyond b.text).now b {} := (String.append_empty ..).symm
    obtain ⟨text, gives, there, -⟩ := t.blueprint.renderTo_erases
      (TextBuffer.beyond_hastens b.text) catalog depth start h.calm completes h.returned
    exact ⟨text, congrArg TextBuffer.mk there, rendersAtOnce_of_gives gives⟩
  · intro r o refusals refusesFlush d h
    have completes := Run.completes_iff.mpr ⟨h.outcome, rfl, h.succeeded⟩
    have start : (Recorder.beyond r.text).now r {} :=
      ⟨refusals, refusesFlush, (String.append_empty ..).symm⟩
    obtain ⟨text, gives, there, -⟩ := t.blueprint.renderTo_erases
      (Recorder.beyond_hastens r.text) catalog depth start h.calm completes h.returned
    exact ⟨text, there.2.2, rendersAtOnce_of_gives gives⟩
  · intro s o willing d h
    have completes := Run.completes_iff.mpr ⟨h.outcome, rfl, h.succeeded⟩
    have start : (StagedSink.beyond s.held).now s {} := ⟨willing, (List.append_nil _).symm⟩
    obtain ⟨text, gives, -, left, there, flushed⟩ := t.blueprint.renderTo_erases
      (StagedSink.beyond_hastens s.held) catalog depth start h.calm completes h.returned
    obtain ⟨unstaged, accepted⟩ := StagedSink.flush_completes there.1 flushed
    exact ⟨text, accepted.trans there.2, unstaged, rendersAtOnce_of_gives gives⟩

/-- A page that waits and flushes, the item that it waits for, and a layout that flushes. -/
def slowSite : Catalog
  | "page" =>
    { body := { name := "page", steps := [{ call := .setLayout "layout" },
        { call := .literalAsync "a" }, { call := .wait 1 }, { call := .templateAsync "item" },
        { call := .flush }, { call := .write (.plain "<") }] } }
  | "item" =>
    { body := { name := "item", steps := [{ call := .wait 1 }, { call := .literalAsync "b" }] } }
  | _ =>
    { body := { name := "layout", steps := [{ call := .literal "[" }, { call := .flush },
        { call := .renderBody }, { call := .literalAsync "]" }] } }

/-- A sink over a writer that takes few bytes at a time and is often not ready. -/
def slowSink : StagedSink :=
  { writer := {
      script := [.accept 1, .notReady, .accept 2, .notReady]
      flushScript := [.notReady, .ok, .notReady] } }

def slowPage : Template :=
  { blueprint := slowSite "page" }

theorem erased_render_slowPage :
    let d := (slowPage.blueprint.renderTo slowSite 2 none).await slowSink
    slowSink.writer.isWilling = true ∧
      Untroubled (slowPage.blueprint.execution slowSite 2 slowSink) d (.ok ()) ∧
      d.state.writer.accepted = utf8 "[ab&lt;]" ∧ d.state.staged = "" ∧
      ∃ text, utf8 text = utf8 "[ab&lt;]" ∧
        slowPage.erase.RendersAtOnce slowSite.erase 2 (.ok text) text := by
  have willing : slowSink.writer.isWilling = true := by decide
  have untroubled : Untroubled (slowPage.blueprint.execution slowSite 2 slowSink)
      ((slowPage.blueprint.renderTo slowSite 2 none).await slowSink) (.ok ()) :=
    ⟨by decide +kernel, by decide +kernel, rfl, by decide +kernel⟩
  have delivered : ((slowPage.blueprint.renderTo slowSite 2 none).await
      slowSink).state.writer.accepted = utf8 "[ab&lt;]" := by decide +kernel
  obtain ⟨text, accepted, unstaged, renders⟩ :=
    (erased_render slowSite 2 slowPage).2.2.2 slowSink (.ok ()) willing untroubled
  have nothing : slowSink.writer.accepted ++ utf8 slowSink.staged = [] := rfl
  rw [nothing, List.nil_append, delivered] at accepted
  exact ⟨willing, untroubled, delivered, unstaged, text, accepted.symm, renders⟩

end Template

end Templating
