import Templating.Proofs.Postconditions
import Templating.Proofs.Renders

/-!
# Calls to a sink

`Audited σ` is a sink of kind `σ` that keeps a record of the calls made to it, in order, with what
came of each. The record makes no difference to a render (`drive_renderTo_unrecorded`). A render
that returns has flushed its sink once more after its execution, and that is the last call on the
record (`drive_renderTo_settled`).
-/

namespace Templating

variable {σ τ α : Type}

/-- A render ends so when it returns; a misuse does not return. -/
def Outcome.returns : Outcome α → Bool
  | ok _ | failed _ => true
  | _ => false

inductive SinkCall where
  | write (text : String)
  | writeAsync (text : String)
  | flush
  deriving DecidableEq, Repr, Inhabited

/-- A call that was made to a sink. There is no outcome while the call waits, nor later if it was
given up there. -/
structure Sent where
  call : SinkCall
  outcome? : Option (Outcome Unit) := none
  deriving DecidableEq, Repr, Inhabited

structure Audited (σ : Type) where
  sink : σ
  calls : List Sent := []
  deriving DecidableEq, Repr, Inhabited

namespace Audited

/-- A run of the sink, with what the record holds while it waits and when it has ended. -/
def onRecord (during : List Sent) (ended : Outcome Unit → List Sent) (r : Run σ Unit) :
    Run (Audited σ) Unit :=
  (r.recast ({ sink := ·, calls := during }) fun o _ => .ok o).bind fun o a =>
    .done o { a with calls := ended o }

def record (call : SinkCall) (act : Action σ Unit) : Action (Audited σ) Unit := fun a =>
  onRecord (a.calls ++ [{ call := call }]) (fun o => a.calls ++ [{ call, outcome? := some o }])
    (act a.sink)

end Audited

instance [Destination σ] : Destination (Audited σ) where
  write text a :=
    let (result, sink) := Destination.write text a.sink
    let outcome : Outcome Unit :=
      match result with
      | .ok _ => .ok ()
      | .error e => .failed e
    (result, { sink, calls := a.calls ++ [{ call := .write text, outcome? := some outcome }] })
  writeAsync text := Audited.record (.writeAsync text) (.writeAsync text)
  flush := Audited.record .flush .flush

namespace Audited

theorem write_eq [Destination σ] (text : String) :
    (Action.write text : Action (Audited σ) Unit) = record (.write text) (.write text) := by
  funext a
  cases h : Destination.write text a.sink with
  | mk result sink =>
    cases result <;>
      simp [Action.write, Action.ofStep, Destination.write, record, onRecord, h, Run.recast]

/-- Of a call that ended the record holds the outcome. -/
theorem await_onRecord (during : List Sent) (ended : Outcome Unit → List Sent)
    (r : Run σ Unit) {o : Outcome Unit} (ends : r.await.outcome? = some o) :
    (onRecord during ended r).await =
      ⟨r.await.events, r.await.polls, { sink := r.await.state, calls := ended o }, some o⟩ := by
  induction r with
  | done o' s =>
    cases ends
    rfl
  | note e rest ih =>
    have later := ih ends
    simp only [onRecord, Run.recast, Run.bind, Run.await] at later ⊢
    rw [later]
  | pause s rest ih =>
    have later := ih () ends
    simp only [onRecord, Run.recast, Run.bind, Run.await] at later ⊢
    rw [later]
  | stalled s => cases ends

/-- A flush that does not wait is on the record with its outcome. -/
theorem await_flush [Destination σ] (atOnce : ∀ s : σ, (Action.flush s : Run σ Unit).pauses = [])
    (a : Audited σ) :
    ∃ flushed, (Action.flush a).await.outcome? = some flushed ∧
      (Action.flush a).await.state.calls =
        a.calls ++ [{ call := .flush, outcome? := some flushed }] := by
  obtain ⟨flushed, flushes⟩ := Option.ne_none_iff_exists'.mp (Run.await_ends (atOnce a.sink))
  have sent : (Action.flush a).await = _ := await_onRecord _ _ (Action.flush a.sink) flushes
  exact ⟨flushed, by rw [sent], by rw [sent]⟩

theorem onRecord_pauses (during : List Sent) (ended : Outcome Unit → List Sent)
    {r : Run σ Unit} (unwaiting : r.pauses = []) : (onRecord during ended r).pauses = [] := by
  refine Run.pauses_bind ?_ fun _ _ => rfl
  rw [Run.pauses_recast, unwaiting]
  rfl

/-- A call that waits is on the record without an outcome. -/
theorem onRecord_ensures {during : List Sent} {ended : Outcome Unit → List Sent}
    {waits : Audited σ → Prop} {ends : Outcome Unit → Audited σ → Prop} {P : σ → Prop}
    {Q : Outcome Unit → σ → Prop} {r : Run σ Unit} (h : r.Ensures P Q)
    (here : ∀ s, P s → waits { sink := s, calls := during })
    (last : ∀ o s, Q o s → ends o { sink := s, calls := ended o }) :
    (onRecord during ended r).Ensures waits ends := by
  induction r with
  | done o s => exact last o s h
  | note e rest ih => exact ih h
  | pause s rest ih => exact ⟨here s h.1, ih () h.2⟩
  | stalled s => exact here s h

/-- Whether it waits or has ended, a call is put on the record once. -/
theorem record_visits (call : SinkCall) (act : Action σ Unit) (a : Audited σ) :
    (record call act a).Visits fun a' =>
      ∃ outcome?, a'.calls = a.calls ++ [{ call := call, outcome? := outcome? }] := by
  unfold record
  induction act a.sink with
  | done o s => exact ⟨some o, rfl⟩
  | note e rest ih => exact ih
  | pause s rest ih => exact ⟨⟨none, rfl⟩, ih ()⟩
  | stalled s => exact ⟨none, rfl⟩

/-- A sink beside the same sink with a record, whatever the record. -/
def beside : Coupling σ (Audited σ) where
  now s a := a.sink = s
  past _ _ := True
  lossy := False
  now_past _ _ _ := trivial

theorem onRecord_follows (during : List Sent) (ended : Outcome Unit → List Sent)
    (r : Run σ Unit) : r.Follows beside (onRecord during ended r) := by
  induction r with
  | done o s => exact .done o rfl
  | note e rest ih => exact .noteLeft e (.noteRight e ih)
  | pause s rest ih => exact .pause rfl (.trivially _) (ih ())
  | stalled s => exact .stalled rfl

theorem record_follows (call : SinkCall) (act : Action σ Unit) :
    Action.Follows beside act (record call act) where
  run := by
    rintro s a rfl
    exact onRecord_follows _ _ (act a.sink)
  keep _ := .trivially _

theorem beside_respects [Destination σ] : (beside : Coupling σ (Audited σ)).Respects where
  write text := by
    have follows := record_follows (.write text) (Action.write text : Action σ Unit)
    rwa [← write_eq] at follows
  writeAsync text := record_follows (.writeAsync text) (.writeAsync text)
  flush := record_follows .flush .flush

end Audited

namespace Blueprint

section

variable [Destination σ] [Destination τ] {c : Coupling σ τ}

theorem settle_follows (lossless : ¬ c.lossy) (respects : c.Respects) (o : Outcome Unit) :
    Action.Follows c (settle o) (settle o) := by
  have closed : ∀ o : Outcome Unit, Action.Follows c
      (do
        let flushed ← Action.flush.attempt
        .conclude (o.bind fun _ => flushed)
        .log .renderedToExternal)
      (do
        let flushed ← Action.flush.attempt
        .conclude (o.bind fun _ => flushed)
        .log .renderedToExternal) := fun o =>
    .attempt_bind respects.flush (fun flushed => .bind (.conclude _) fun _ => .log _)
      fun lossy => absurd lossy lossless
  cases o with
  | ok _ => exact closed (.ok ())
  | failed e => exact closed (.failed e)
  | misused m => exact .misuse m
  | tooDeep => exact .conclude .tooDeep

theorem renderTo_follows (lossless : ¬ c.lossy) (respects : c.Respects) (catalog : Catalog)
    (depth : Nat) (b : Blueprint) (allowed : Option Nat) :
    Action.Follows c (b.renderTo catalog depth allowed) (b.renderTo catalog depth allowed) :=
  .bind (.log _) fun _ =>
    .attempt_bind (renderCancellable_follows lossless respects catalog depth b allowed)
      (settle_follows lossless respects) fun lossy => absurd lossy lossless

end

variable [Destination σ]

/-- A record of the calls makes no difference to a render. -/
theorem drive_renderTo_unrecorded (catalog : Catalog) (depth : Nat) (b : Blueprint)
    (allowed : Option Nat) (polls : Nat) (sink : σ) (calls : List Sent) :
    let plain := (b.renderTo catalog depth allowed).drive polls sink
    let audited := (b.renderTo catalog depth allowed).drive polls (Audited.mk sink calls)
    plain.outcome? = audited.outcome? ∧ audited.state.sink = plain.state := by
  intro plain audited
  cases polls with
  | zero => exact ⟨rfl, rfl⟩
  | succ more =>
    have follows := renderTo_follows id (Audited.beside_respects (σ := σ)) catalog depth b allowed
    have start : Audited.beside.now sink (Audited.mk sink calls) := rfl
    exact (follows.run start).drive id more

/-- What the end of a render makes of an execution: with `calls` on the record and `ended?` as its
outcome so far, the render has this outcome and this record. -/
inductive Settled (calls : List Sent) :
    Option (Outcome Unit) → Option (Outcome Unit) → List Sent → Prop
  | underWay : Settled calls none none calls
  | returned (ended flushed : Outcome Unit) (returns : ended.returns = true) :
      Settled calls (some ended) (some (ended.bind fun _ => flushed))
        (calls ++ [{ call := .flush, outcome? := some flushed }])
  | broken (ended : Outcome Unit) (breaks : ended.returns = false) :
      Settled calls (some ended) (some ended) calls

/-- After an execution that returned the sink is flushed, whatever it comes to. -/
theorem await_settle_returned (atOnce : ∀ s : σ, (Action.flush s : Run σ Unit).pauses = [])
    {ended flushed : Outcome Unit} (returns : ended.returns = true) {s : σ}
    (flushes : (Action.flush s : Run σ Unit).await.outcome? = some flushed) :
    (settle ended s).await.outcome? = some (ended.bind fun _ => flushed) ∧
      (settle ended s).await.state = (Action.flush s : Run σ Unit).await.state := by
  let close (flushed : Outcome Unit) (s : σ) : Run σ Unit :=
    (Run.done (ended.bind fun _ => flushed) s).bind fun _ s => Action.log .renderedToExternal s
  have closed : ∀ (o : Outcome Unit) (s : σ),
      let run := (Run.done o s).bind fun _ s => Action.log .renderedToExternal s
      run.pauses = [] ∧ run.await.outcome? = some o ∧ run.await.state = s := by
    intro o s
    cases o <;> exact ⟨rfl, rfl, rfl⟩
  have settled : settle ended s =
      ((Action.flush s : Run σ Unit).recast id fun o _ => .ok o).bind close := by
    cases ended with
    | ok _ => rfl
    | failed e => rfl
    | misused m => cases returns
    | tooDeep => cases returns
  have driven : (settle ended s).drive 0 = _ := settled ▸
    Run.drive_attempt_bind (Action.flush s : Run σ Unit) (fun o s => (closed _ s).1) 0
  rw [Run.drive_eq_await (settle_pauses atOnce ended s), Run.drive_eq_await (atOnce s)] at driven
  rw [driven]
  simp only [Driven.closed, flushes]
  exact (closed _ _).2

/-- A render succeeds if its execution and the closing flush do. -/
theorem drive_renderTo_ok (atOnce : ∀ s : σ, (Action.flush s : Run σ Unit).pauses = [])
    (catalog : Catalog) (depth : Nat) (b : Blueprint) (allowed : Option Nat) (polls : Nat)
    (s : σ) :
    let stopped := (b.renderCancellable catalog depth allowed).drive polls s
    ((b.renderTo catalog depth allowed).drive polls s).outcome? = some (.ok ()) ↔
      stopped.outcome? = some (.ok ()) ∧
        (Action.flush stopped.state : Run σ Unit).await.outcome? = some (.ok ()) := by
  intro stopped
  cases polls with
  | zero =>
    have unpolled : stopped.outcome? = none := rfl
    have dropped : ((b.renderTo catalog depth allowed).drive 0 s).outcome? = none := rfl
    simp [unpolled, dropped]
  | succ more =>
    have shown : ((b.renderTo catalog depth allowed).drive (more + 1) s).outcome? = _ :=
      congrArg Driven.outcome? (drive_renderTo atOnce catalog depth b allowed s more)
    have here : (b.renderCancellable catalog depth allowed s).drive more = stopped := rfl
    rw [shown]
    simp only [here, Driven.closed]
    cases stopped.outcome? with
    | none => simp
    | some o =>
      obtain ⟨flushed, flushes⟩ :=
        Option.ne_none_iff_exists'.mp (Run.await_ends (atOnce stopped.state))
      dsimp only
      cases o with
      | ok _ =>
        have settled : (settle (.ok ()) stopped.state).await.outcome? = some flushed :=
          (await_settle_returned atOnce rfl flushes).1
        simp [settled, flushes]
      | failed e =>
        have settled : (settle (.failed e) stopped.state).await.outcome? = some (.failed e) :=
          (await_settle_returned atOnce rfl flushes).1
        simp [settled]
      | misused m => simp [settle, Action.misuse, Action.conclude, Run.await]
      | tooDeep => simp [settle, Action.conclude, Run.await]

/-- Where no flush waits: how a render ended, and which calls were made, is settled by what its
execution came to in the same polls. -/
theorem drive_renderTo_settled (atOnce : ∀ s : σ, (Action.flush s : Run σ Unit).pauses = [])
    (catalog : Catalog) (depth : Nat) (b : Blueprint) (allowed : Option Nat) (polls : Nat)
    (a : Audited σ) :
    let stopped := (b.renderCancellable catalog depth allowed).drive polls a
    let whole := (b.renderTo catalog depth allowed).drive polls a
    Settled stopped.state.calls stopped.outcome? whole.outcome? whole.state.calls := by
  intro stopped whole
  cases polls with
  | zero => exact .underWay
  | succ more =>
    have flushAtOnce : ∀ a : Audited σ, (Action.flush a : Run (Audited σ) Unit).pauses = [] :=
      fun a => Audited.onRecord_pauses _ _ (atOnce a.sink)
    have shown := drive_renderTo flushAtOnce catalog depth b allowed a more
    have outcome : whole.outcome? = _ := congrArg Driven.outcome? shown
    have state : whole.state = _ := congrArg Driven.state shown
    have here : (b.renderCancellable catalog depth allowed a).drive more = stopped := rfl
    rw [outcome, state]
    simp only [here, Driven.closed]
    cases ended : stopped.outcome? with
    | none => exact .underWay
    | some o =>
      dsimp only
      cases returns : o.returns with
      | true =>
        obtain ⟨flushed, flushes, sent⟩ := Audited.await_flush atOnce stopped.state
        obtain ⟨value, last⟩ := await_settle_returned flushAtOnce returns flushes
        rw [value, last, sent]
        exact .returned o flushed returns
      | false =>
        cases o with
        | ok _ => cases returns
        | failed e => cases returns
        | misused m => exact .broken (.misused m) rfl
        | tooDeep => exact .broken .tooDeep rfl

theorem Settled.of_returns {calls all : List Sent} {ended? : Option (Outcome Unit)}
    {result : Outcome Unit} (settled : Settled calls ended? (some result) all)
    (returns : result.returns = true) :
    ∃ ended flushed, ended? = some ended ∧ result = (ended.bind fun _ => flushed) ∧
      all = calls ++ [{ call := .flush, outcome? := some flushed }] := by
  cases settled with
  | returned ended flushed => exact ⟨ended, flushed, rfl, rfl, rfl⟩
  | broken _ breaks => exact nomatch breaks.symm.trans returns

/-- Where no flush waits, a render ends in the poll in which its execution does. -/
theorem drive_renderTo_polls (atOnce : ∀ s : σ, (Action.flush s : Run σ Unit).pauses = [])
    (catalog : Catalog) (depth : Nat) (b : Blueprint) (allowed : Option Nat) (polls : Nat)
    (s : σ) :
    ((b.renderTo catalog depth allowed).drive polls s).polls =
      ((b.renderCancellable catalog depth allowed).drive polls s).polls := by
  cases polls with
  | zero => rfl
  | succ more =>
    have shown : ((b.renderTo catalog depth allowed).drive (more + 1) s).polls = _ :=
      congrArg Driven.polls (drive_renderTo atOnce catalog depth b allowed s more)
    rw [shown]
    unfold Driven.closed
    split <;> rfl

end Blueprint

end Templating
