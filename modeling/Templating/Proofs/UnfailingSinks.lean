import Templating.Destination.BlockingSink
import Templating.Destination.Recorder
import Templating.Proofs.Renders

/-!
# Sinks that could have failed

Beside a sink that may fail stands the same sink with its failures taken away (`unfailing`). Up to
the first failure the two do the same; a call that fails has delivered a part at most of what its
twin delivers, and what is delivered only grows. `Twinned` says so of a kind of sink. It holds of
recorders, of blocking sinks, and of any twinned sink if further calls to it fail, at whatever
positions (`Faulty`).
-/

namespace Templating

variable {σ ω α : Type}

namespace Action

theorem ofStep_visits {step : σ → Except RenderError α × σ} {P : σ → Prop} {s : σ}
    (here : P (step s).2) : (ofStep step s).Visits P := by
  unfold ofStep
  split
  · next left => exact (congrArg (P ·.2) left).mp here
  · next left => exact (congrArg (P ·.2) left).mp here

theorem ofStep_pauses (step : σ → Except RenderError α × σ) (s : σ) :
    (ofStep step s).pauses = [] := by
  unfold ofStep
  split <;> rfl

end Action

namespace Coupling

/-- A sink beside the same sink without its failures. -/
def besideUnfailing (delivered : σ → List ω) (unfailing : σ → σ) : Coupling σ σ where
  now s t := t = unfailing s ∧ delivered t = delivered s
  past s t := delivered s <+: delivered t
  lossy := True
  slow := False
  slow_lossy := False.elim
  now_past _ _ same := same.2 ▸ List.prefix_refl _

variable {delivered : σ → List ω} {unfailing : σ → σ}

theorem besideUnfailing_ofStep {step : σ → Except RenderError Unit × σ}
    (same : ∀ s, delivered (unfailing s) = delivered s)
    (succeeds : ∀ s s', step s = (.ok (), s') → step (unfailing s) = (.ok (), unfailing s'))
    (fails : ∀ s e s', step s = (.error e, s') → delivered s' <+: delivered (step (unfailing s)).2)
    (grows : ∀ s, delivered s <+: delivered (step s).2) :
    Action.Follows (besideUnfailing delivered unfailing) (.ofStep step) (.ofStep step) where
  run := by
    rintro s _ ⟨rfl, -⟩
    cases stepped : step s with
    | mk result s' =>
      cases result with
      | ok value =>
        have twin := succeeds s s' stepped
        simp only [Action.ofStep, stepped, twin]
        exact .done _ ⟨rfl, same s'⟩
      | error e =>
        have behind : (Action.ofStep step (unfailing s)).Visits
            ((besideUnfailing delivered unfailing).past s') :=
          Action.ofStep_visits (fails s e s' stepped)
        simp only [Action.ofStep, stepped] at behind ⊢
        exact .halt trivial rfl behind
  keep past := Action.ofStep_visits (List.IsPrefix.trans past (grows _))

end Coupling

/-- A kind of sink that stands beside an unfailing one, and never waits in a flush. -/
structure Twinned [Destination σ] (delivered : σ → List ω) (unfailing : σ → σ) : Prop where
  respects : (Coupling.besideUnfailing delivered unfailing).Respects
  same : ∀ s, delivered (unfailing s) = delivered s
  flushesAtOnce : ∀ s, (Action.flush s : Run σ Unit).pauses = []
  flushKeeps : ∀ s, (Action.flush s : Run σ Unit).Visits fun s' => delivered s' = delivered s
  flushSucceeds : ∀ s, (Action.flush (unfailing s) : Run σ Unit).await.outcome? = some (.ok ())

namespace Recorder

def delivered (r : Recorder) : List Char :=
  r.text.toList

def unfailing (r : Recorder) : Recorder :=
  { r with refusals := [], refusesFlush := false }

theorem delivered_take (kind : WriteKind) (text : String) (r : Recorder) :
    (take kind text r).2.delivered =
      r.delivered ++ if r.refusals.contains r.writes then [] else text.toList := by
  unfold take
  dsimp only
  split <;> simp [delivered, Recorder.text]

theorem take_follows (kind : WriteKind) (text : String) :
    Action.Follows (.besideUnfailing delivered unfailing) (.ofStep (take kind text))
      (.ofStep (take kind text)) := by
  refine Coupling.besideUnfailing_ofStep (fun _ => rfl) ?_ ?_ ?_
  · intro r r' taken
    unfold take at taken
    dsimp only at taken
    split at taken
    · cases taken
    · cases taken
      rfl
  · intro r e r' refused
    have held := r.delivered_take kind text
    have all := r.unfailing.delivered_take kind text
    rw [refused] at held
    rw [held, all]
    split
    · exact ⟨text.toList, by simp [unfailing, delivered, Recorder.text]⟩
    · exact List.prefix_refl _
  · intro r
    rw [delivered_take]
    exact List.prefix_append ..

theorem twinned : Twinned delivered unfailing where
  respects := {
    write := take_follows .sync
    writeAsync := fun text => by
      refine .bind (.read fun r _ same => (congrArg waits same.1).symm) fun waits => ?_
      dsimp only
      split
      · exact .bind (.wait 1) fun _ => take_follows .async text
      · exact take_follows .async text
    flush := by
      refine Coupling.besideUnfailing_ofStep (fun _ => rfl) ?_ ?_ ?_
      · intro r r' counted
        unfold countFlush at counted ⊢
        cases refuses : r.refusesFlush <;> simp only [refuses] at counted <;> cases counted
        rfl
      · intro r e r' counted
        obtain rfl : { r with flushes := r.flushes + 1 } = r' := congrArg Prod.snd counted
        exact List.prefix_refl _
      · exact fun r => List.prefix_refl _ }
  same _ := rfl
  flushesAtOnce r := Action.ofStep_pauses countFlush r
  flushKeeps r := Action.ofStep_visits rfl
  flushSucceeds _ := rfl

end Recorder

namespace ScriptedWriter

/-- Whatever comes of it, the writer took the bytes in order, and all of them if it did not fail. -/
theorem sendBlocking_takes (w : ScriptedWriter) (script : List WriteAnswer) (bytes : List UInt8) :
    ∃ n script', (w.sendBlocking script bytes).2 =
        { w with script := script', accepted := w.accepted ++ bytes.take n } ∧
      ((w.sendBlocking script bytes).1 = .ok () → bytes.take n = bytes) := by
  induction script generalizing w bytes with
  | nil =>
    cases bytes with
    | nil => exact ⟨0, [], by simp [sendBlocking], fun _ => rfl⟩
    | cons b bytes =>
      exact ⟨(b :: bytes).length, [], by simp [sendBlocking, accept], fun _ => List.take_length⟩
  | cons answer script ih =>
    cases bytes with
    | nil => exact ⟨0, answer :: script, by simp [sendBlocking], fun _ => rfl⟩
    | cons b bytes =>
      cases answer with
      | accept count =>
        cases count with
        | zero => exact ⟨0, script, by simp [sendBlocking], fun ok => nomatch ok⟩
        | succ count =>
          obtain ⟨n, script', taken, all⟩ :=
            ih (w.accept (b :: bytes.take count)) (bytes.drop count)
          have portion : (b :: bytes).take (count + n + 1) =
              b :: bytes.take count ++ (bytes.drop count).take n := by
            rw [List.take_succ_cons, List.take_add, List.cons_append]
          refine ⟨count + n + 1, script', ?_, fun ok => ?_⟩
          · rw [sendBlocking, taken, portion, accept, List.append_assoc]
          · rw [portion, all ok, List.cons_append, List.take_append_drop]
      | notReady => exact ih w (b :: bytes)
      | interrupted => exact ih w (b :: bytes)
      | error cause => exact ⟨0, script, by simp [sendBlocking], fun ok => nomatch ok⟩

theorem sendBlocking_nil (w : ScriptedWriter) (bytes : List UInt8) :
    w.sendBlocking [] bytes = (.ok (), { w.accept bytes with script := [] }) := by
  cases bytes with
  | nil => simp [sendBlocking, accept]
  | cons b bytes => rfl

theorem flushBlocking_accepted (w : ScriptedWriter) :
    w.flushBlocking.2.accepted = w.accepted := by
  unfold flushBlocking
  split <;> rfl

theorem flushBlocking_ok {w w' : ScriptedWriter} (ok : w.flushBlocking = (.ok (), w')) :
    ∃ flushScript, w' = { w with flushScript, flushes := w.flushes + 1 } := by
  unfold flushBlocking at ok
  split at ok
  · cases ok
  · cases ok
    exact ⟨_, rfl⟩

end ScriptedWriter

namespace BlockingSink

open ScriptedWriter (utf8)

def delivered (b : BlockingSink) : List UInt8 :=
  b.writer.accepted

def unfailing (b : BlockingSink) : BlockingSink :=
  { writer := { b.writer with script := [], flushScript := [] } }

theorem send_unfailing (text : String) (b : BlockingSink) :
    send text b.unfailing = (.ok (), { writer := b.unfailing.writer.accept (utf8 text) }) := by
  have sent : b.unfailing.writer.sendBlocking b.unfailing.writer.script (utf8 text) = _ :=
    ScriptedWriter.sendBlocking_nil _ _
  simp only [send, sent]
  rfl

theorem send_follows (text : String) :
    Action.Follows (.besideUnfailing delivered unfailing) (.ofStep (send text))
      (.ofStep (send text)) := by
  have sent : ∀ b : BlockingSink, ∃ n script',
      (send text b).2 = { writer := { b.writer with
        script := script', accepted := b.writer.accepted ++ (utf8 text).take n } } ∧
      ((send text b).1 = .ok () → (utf8 text).take n = utf8 text) := by
    intro b
    obtain ⟨n, script', taken, all⟩ := b.writer.sendBlocking_takes b.writer.script (utf8 text)
    exact ⟨n, script', congrArg BlockingSink.mk taken, all⟩
  refine Coupling.besideUnfailing_ofStep (fun _ => rfl) ?_ ?_ ?_
  · intro b b' ok
    obtain ⟨n, script', taken, all⟩ := sent b
    rw [ok] at taken all
    obtain rfl : b' = _ := taken
    rw [send_unfailing, all rfl]
    rfl
  · intro b e b' failed
    obtain ⟨n, script', taken, -⟩ := sent b
    rw [failed] at taken
    obtain rfl : b' = _ := taken
    rw [send_unfailing]
    exact (List.prefix_append_right_inj b.writer.accepted).mpr (List.take_prefix ..)
  · intro b
    obtain ⟨n, script', taken, -⟩ := sent b
    rw [taken]
    exact List.prefix_append ..

theorem pushThrough_delivered (b : BlockingSink) :
    (pushThrough b).2.delivered = b.delivered :=
  b.writer.flushBlocking_accepted

theorem pushThrough_unfailing (b : BlockingSink) :
    pushThrough b.unfailing = (.ok (), { writer := { b.unfailing.writer with
      flushes := b.writer.flushes + 1 } }) := by
  rfl

theorem pushThrough_follows :
    Action.Follows (.besideUnfailing delivered unfailing) (.ofStep pushThrough)
      (.ofStep pushThrough) := by
  refine Coupling.besideUnfailing_ofStep (fun _ => rfl) ?_ ?_ ?_
  · intro b b' ok
    cases flushed : b.writer.flushBlocking with
    | mk result w =>
      simp only [pushThrough, flushed] at ok
      cases ok
      obtain ⟨flushScript, rfl⟩ := ScriptedWriter.flushBlocking_ok flushed
      exact b.pushThrough_unfailing
  · intro b e b' failed
    have held := b.pushThrough_delivered
    rw [failed] at held
    rw [held, pushThrough_delivered]
    exact List.prefix_refl _
  · intro b
    exact b.pushThrough_delivered.symm ▸ List.prefix_refl b.delivered

theorem twinned : Twinned delivered unfailing where
  respects := ⟨send_follows, send_follows, pushThrough_follows⟩
  same _ := rfl
  flushesAtOnce b := Action.ofStep_pauses pushThrough b
  flushKeeps b := Action.ofStep_visits b.pushThrough_delivered
  flushSucceeds _ := rfl

end BlockingSink

/-- A sink of which some calls fail without reaching it. -/
structure Faulty (σ : Type) where
  sink : σ
  /-- The errors of the calls that fail, by position among all calls, writes and flushes. -/
  faults : Nat → Option RenderError
  calls : Nat := 0

namespace Faulty

def counted (f : Faulty σ) (sink : σ) : Faulty σ :=
  { f with sink, calls := f.calls + 1 }

def guard (act : Action σ Unit) : Action (Faulty σ) Unit := fun f =>
  match f.faults f.calls with
  | some e => .done (.failed e) (f.counted f.sink)
  | none => (act f.sink).recast f.counted fun o _ => o

end Faulty

instance [Destination σ] : Destination (Faulty σ) where
  write text f :=
    match f.faults f.calls with
    | some e => (.error e, f.counted f.sink)
    | none =>
      let (result, sink) := Destination.write text f.sink
      (result, f.counted sink)
  writeAsync text := Faulty.guard (.writeAsync text)
  flush := Faulty.guard .flush

namespace Faulty

theorem write_eq [Destination σ] (text : String) :
    (Action.write text : Action (Faulty σ) Unit) = guard (.write text) := by
  funext f
  cases fault : f.faults f.calls with
  | some e => simp [Action.write, Action.ofStep, Destination.write, guard, fault]
  | none =>
    cases h : Destination.write text f.sink with
    | mk result sink =>
      cases result <;>
        simp [Action.write, Action.ofStep, Destination.write, guard, fault, h, Run.recast]

def unfailing (twin : σ → σ) (f : Faulty σ) : Faulty σ :=
  { f with sink := twin f.sink, faults := fun _ => none }

variable {delivered : σ → List ω} {twin : σ → σ}

theorem guard_follows {act : Action σ Unit}
    (same : ∀ s, delivered (twin s) = delivered s)
    (h : Action.Follows (.besideUnfailing delivered twin) act act) :
    Action.Follows (.besideUnfailing (fun f : Faulty σ => delivered f.sink) (unfailing twin))
      (guard act) (guard act) where
  run := by
    rintro f _ ⟨rfl, -⟩
    have here : (Coupling.besideUnfailing delivered twin).now f.sink (twin f.sink) :=
      ⟨rfl, same f.sink⟩
    have free : guard act (f.unfailing twin) =
        (act (twin f.sink)).recast (f.unfailing twin).counted fun o _ => o := rfl
    rw [free]
    unfold guard
    cases f.faults f.calls with
    | some e =>
      refine .halt trivial rfl ?_
      exact (h.keep (Coupling.now_past _ _ _ here)).recast fun _ later => later
    | none =>
      refine (h.run here).recast id id ?_ (fun _ _ later => later) (fun _ _ _ _ => rfl)
        fun _ _ _ halted => halted
      rintro s _ ⟨rfl, same⟩
      exact ⟨rfl, same⟩
  keep {f g} past := by
    unfold guard
    cases g.faults g.calls with
    | some e => exact past
    | none => exact (h.keep past).recast fun _ later => later

theorem twinned [Destination σ] (twins : Twinned delivered twin) :
    Twinned (fun f : Faulty σ => delivered f.sink) (unfailing twin) where
  respects := {
    write := fun text => by
      rw [write_eq]
      exact guard_follows twins.same (twins.respects.write text)
    writeAsync := fun text => guard_follows twins.same (twins.respects.writeAsync text)
    flush := guard_follows twins.same twins.respects.flush }
  same f := twins.same f.sink
  flushesAtOnce f := by
    change (guard Action.flush f).pauses = []
    unfold guard
    cases f.faults f.calls with
    | some e => rfl
    | none =>
      dsimp only
      rw [Run.pauses_recast, twins.flushesAtOnce]
      rfl
  flushKeeps f := by
    change (guard Action.flush f).Visits _
    unfold guard
    cases f.faults f.calls with
    | some e => rfl
    | none => exact (twins.flushKeeps f.sink).recast fun _ same => same
  flushSucceeds f := by
    have free : Action.flush (f.unfailing twin) =
        (Action.flush (twin f.sink)).recast (f.unfailing twin).counted fun o _ => o := rfl
    rw [free, (Run.await_recast ..).2, twins.flushSucceeds]
    rfl

end Faulty

end Templating
