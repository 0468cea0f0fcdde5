import Templating.Destination.StagedSink
import Templating.Proofs.Renders

/-!
# Interrupted drains

A staged sink drops staged text only when all of it was handed over. Until then the writer may
have accepted a part of it, and a drain that is cut short leaves that part staged. `Interrupted`
describes such a sink. As long as the execution itself runs, what the writer accepted is a prefix
of the text (`accepted_prefix`); but a render flushes once more after an execution that failed or
was cancelled, and that flush hands the staged text over from its start.
`accepted_prefix_iff` says when the writer still ends up with a prefix of the text.
-/

namespace Templating

open ScriptedWriter (utf8)

namespace ScriptedWriter

/-- Interrupted or not, the writer accepts the bytes in order. -/
theorem sendAsync_visits (w : ScriptedWriter) (script : List WriteAnswer) (bytes : List UInt8) :
    (w.sendAsync script bytes).Visits fun w' =>
      ∃ n, w'.accepted = w.accepted ++ bytes.take n := by
  induction script generalizing w bytes with
  | nil =>
    cases bytes with
    | nil => exact ⟨0, by simp⟩
    | cons b bytes => exact ⟨(b :: bytes).length, by simp [accept]⟩
  | cons answer script ih =>
    cases bytes with
    | nil => exact ⟨0, by simp⟩
    | cons b bytes =>
      cases answer with
      | accept count =>
        cases count with
        | zero => exact ⟨0, by simp⟩
        | succ count =>
          refine (ih (w.accept (b :: bytes.take count)) (bytes.drop count)).mono ?_
          rintro w' ⟨n, accepted⟩
          refine ⟨count + n + 1, ?_⟩
          rw [accepted, accept, List.append_assoc, List.take_succ_cons, List.take_add,
            List.cons_append]
      | notReady => exact ⟨⟨0, by simp⟩, ih w (b :: bytes)⟩
      | interrupted => exact ih w (b :: bytes)
      | error cause => exact ⟨0, by simp⟩

theorem flushAsync_visits (w : ScriptedWriter) (script : List FlushAnswer) :
    (w.flushAsync script).Visits fun w' => w'.accepted = w.accepted := by
  induction script with
  | nil => rfl
  | cons answer script ih =>
    cases answer with
    | ok => rfl
    | notReady => exact ⟨rfl, ih⟩
    | error cause => rfl

end ScriptedWriter

namespace StagedSink

/-- On the way to delivering `whole`, the writer accepted `settled`, and then the first `handed`
bytes of what is still staged. -/
structure Interrupted (whole settled : List UInt8) (handed : Nat) (s : StagedSink) : Prop where
  continues : settled ++ utf8 s.staged <+: whole
  accepted : s.writer.accepted = settled ++ (utf8 s.staged).take handed

theorem Interrupted.accepted_prefix {whole settled : List UInt8} {handed : Nat} {s : StagedSink}
    (h : s.Interrupted whole settled handed) : s.writer.accepted <+: whole := by
  rw [h.accepted]
  exact ((List.prefix_append_right_inj settled).mpr (List.take_prefix ..)).trans h.continues

theorem Interrupted.push {start settled : List UInt8} {handed : Nat} {s : StagedSink}
    {b : TextBuffer} (h : s.Interrupted (start ++ utf8 b.text) settled handed) (text : String) :
    s.Interrupted (start ++ utf8 (b.push text).text) settled handed := by
  have pushed : start ++ utf8 (b.push text).text = start ++ utf8 b.text ++ utf8 text := by
    rw [TextBuffer.push, ScriptedWriter.utf8_append, List.append_assoc]
  rw [pushed]
  exact ⟨h.continues.trans (List.prefix_append ..), h.accepted⟩

/-- A sink beside text in memory: what was accepted and what is staged make up that text. -/
def beside (start : List UInt8) : Coupling StagedSink TextBuffer where
  now s b := s.writer.accepted ++ utf8 s.staged = start ++ utf8 b.text
  past s b := ∃ settled handed, s.Interrupted (start ++ utf8 b.text) settled handed
  lossy := True
  now_past s b same := ⟨s.writer.accepted, 0, same ▸ List.prefix_refl _, by simp⟩

/-- A text is handed over in steps, while the run `q` in memory stands still. What comes after, `k`,
follows `q` once the writer accepted all of the text. -/
theorem send_bind_follows {c : Coupling StagedSink TextBuffer} (slow : c.slow) (text : String)
    (s : StagedSink) (k : Unit → StagedSink → Run StagedSink Unit) (q : Run TextBuffer Unit)
    (partly : ∀ (w : ScriptedWriter) (n : Nat),
      w.accepted = s.writer.accepted ++ (utf8 text).take n →
        q.Visits (c.past { s with writer := w }))
    (wholly : ∀ w : ScriptedWriter, w.accepted = s.writer.accepted ++ utf8 text →
      (k () { s with writer := w }).Follows c q) :
    ((send text s).bind k).Follows c q := by
  -- `n` bytes of the text were accepted; the induction is on the answers that are left
  have loop : ∀ (script : List WriteAnswer) (w : ScriptedWriter) (n : Nat),
      w.accepted = s.writer.accepted ++ (utf8 text).take n →
      (((w.sendAsync script ((utf8 text).drop n)).recast (fun writer => { s with writer })
        fun o _ => o).bind k).Follows c q := by
    intro script
    induction script with
    | nil =>
      intro w n accepted
      have complete : ∀ w' : ScriptedWriter, w'.accepted = w.accepted ++ (utf8 text).drop n →
          (k () { s with writer := w' }).Follows c q := by
        intro w' all
        refine wholly w' ?_
        rw [all, accepted, List.append_assoc, List.take_append_drop]
      cases rest : (utf8 text).drop n with
      | nil => exact complete _ (by simp [rest])
      | cons byte bytes => exact complete _ (by simp [rest, ScriptedWriter.accept])
    | cons answer script ih =>
      intro w n accepted
      cases rest : (utf8 text).drop n with
      | nil =>
        refine wholly _ ?_
        rw [← List.take_append_drop n (utf8 text), rest, List.append_nil]
        exact accepted
      | cons byte bytes =>
        have later : q.Visits (c.past { s with writer := { w with script } }) :=
          partly _ n accepted
        have again := ih w n accepted
        rw [rest] at again
        cases answer with
        | accept count =>
          cases count with
          | zero => exact .halt (c.slow_lossy slow) rfl later
          | succ count =>
            have dropped : bytes.drop count = (utf8 text).drop (n + (count + 1)) := by
              rw [← List.drop_drop, rest, List.drop_succ_cons]
            have taken : (utf8 text).take (n + (count + 1)) =
                (utf8 text).take n ++ byte :: bytes.take count := by
              rw [List.take_add, rest, List.take_succ_cons]
            rw [ScriptedWriter.sendAsync, dropped]
            refine ih (w.accept (byte :: bytes.take count)) (n + (count + 1)) ?_
            rw [ScriptedWriter.accept, accepted, List.append_assoc, taken]
        | notReady => exact .wait slow later again
        | interrupted => exact again
        | error cause => exact .halt (c.slow_lossy slow) rfl later
  exact loop s.writer.script s.writer 0 (by simp)

theorem drain_bind (s : StagedSink) (k : Unit → StagedSink → Run StagedSink Unit) :
    (drain s).bind k = (send s.staged s).bind fun _ s' => k () { s' with staged := "" } := by
  exact Run.bind_assoc (send s.staged s) _ k

/-- Staged text is handed over before anything else. -/
theorem drain_bind_follows {start : List UInt8} {s : StagedSink} {b : TextBuffer}
    (same : (beside start).now s b) (k : Unit → StagedSink → Run StagedSink Unit)
    (q : Run TextBuffer Unit) (more : List UInt8)
    (ends : q.Visits fun b' => start ++ utf8 b'.text = start ++ utf8 b.text ++ more)
    (next : ∀ w : ScriptedWriter, w.accepted = start ++ utf8 b.text →
      (k () { writer := w, staged := "" }).Follows (beside start) q) :
    ((drain s).bind k).Follows (beside start) q := by
  have whole : s.writer.accepted ++ utf8 s.staged = start ++ utf8 b.text := same
  rw [drain_bind]
  refine send_bind_follows trivial s.staged s _ q ?_ ?_
  · intro w n accepted
    refine ends.mono fun b' text => ⟨s.writer.accepted, n, ?_, accepted⟩
    rw [text, ← whole]
    exact List.prefix_append _ more
  · intro w accepted
    exact next w (accepted.trans whole)

private theorem besideDrained {start : List UInt8} {w : ScriptedWriter} {b : TextBuffer}
    (accepted : w.accepted = start ++ utf8 b.text) :
    (beside start).now { writer := w, staged := "" } b := by
  change w.accepted ++ utf8 "" = _
  rw [accepted, show utf8 "" = [] from rfl, List.append_nil]

/-- Once everything is handed over, the writer itself is flushed. -/
theorem pushThrough_follows {start : List UInt8} {w : ScriptedWriter} {b : TextBuffer}
    (accepted : w.accepted = start ++ utf8 b.text) :
    (pushThrough { writer := w, staged := "" }).Follows (beside start) (.done (.ok ()) b) := by
  have loop : ∀ (script : List FlushAnswer),
      ((w.flushAsync script).recast (fun writer => ({ writer, staged := "" } : StagedSink))
        fun o _ => o).Follows (beside start) (.done (.ok ()) b) := by
    intro script
    have past : ∀ w' : ScriptedWriter, w'.accepted = w.accepted →
        (beside start).past { writer := w', staged := "" } b := fun w' same =>
      (beside start).now_past _ _ (besideDrained (same.trans accepted))
    induction script with
    | nil => exact .done _ (besideDrained accepted)
    | cons answer script ih =>
      cases answer with
      | ok => exact .done _ (besideDrained accepted)
      | notReady => exact .wait trivial (past _ rfl) ih
      | error cause => exact .halt trivial rfl (past _ rfl)
  exact loop w.flushScript

/-- A staged sink takes text as memory does, except that it may wait and fail at any point. -/
theorem beside_respects (start : List UInt8) : (beside start).Respects where
  write text := by
    constructor
    · intro s b same
      have whole : s.writer.accepted ++ utf8 s.staged = start ++ utf8 b.text := same
      refine .done _ ?_
      change s.writer.accepted ++ utf8 (s.staged ++ text) = start ++ utf8 (b.text ++ text)
      rw [ScriptedWriter.utf8_append, ScriptedWriter.utf8_append, ← List.append_assoc, whole,
        List.append_assoc]
    · rintro s b ⟨settled, handed, interrupted⟩
      exact ⟨settled, handed, interrupted.push text⟩
  writeAsync text := by
    constructor
    · intro s b same
      have pushed : start ++ utf8 (b.push text).text = start ++ utf8 b.text ++ utf8 text := by
        rw [TextBuffer.push, ScriptedWriter.utf8_append, List.append_assoc]
      refine drain_bind_follows same (fun _ => send text) (.done (.ok ()) (b.push text))
        (utf8 text) pushed ?_
      intro w accepted
      rw [← Run.bind_done (send text _)]
      refine send_bind_follows trivial text _ _ _ ?_ ?_
      · intro w' n partly
        refine ⟨w'.accepted, 0, ?_, by simp⟩
        change w'.accepted ++ utf8 "" <+: _
        rw [partly, pushed, accepted, show utf8 "" = [] from rfl, List.append_nil]
        exact (List.prefix_append_right_inj _).mpr (List.take_prefix ..)
      · intro w' wholly
        refine .done _ (besideDrained ?_)
        rw [wholly, accepted, pushed]
    · rintro s b ⟨settled, handed, interrupted⟩
      exact ⟨settled, handed, interrupted.push text⟩
  flush := by
    constructor
    · intro s b same
      refine drain_bind_follows same (fun _ => pushThrough) (.done (.ok ()) b) [] ?_ ?_
      · exact (List.append_nil _).symm
      · exact fun w => pushThrough_follows
    · exact fun later => later

/-- However far a flush comes, it hands over the staged text from its start. -/
theorem flush_visits (s : StagedSink) :
    (Action.flush s).Visits fun s' =>
      ∃ resent, s'.writer.accepted = s.writer.accepted ++ (utf8 s.staged).take resent := by
  change ((drain s).bind fun _ s' => pushThrough s').Visits _
  rw [drain_bind]
  refine Run.Visits.bind ?_ ?_
  · exact (s.writer.sendAsync_visits s.writer.script (utf8 s.staged)).recast fun w sent => sent
  · rintro _ s' ⟨resent, accepted⟩
    refine (s'.writer.flushAsync_visits s'.writer.flushScript).recast fun w same => ?_
    exact ⟨resent, same.trans accepted⟩

end StagedSink

namespace Blueprint

/-- While the execution runs the sink stays on the way to the text; without an error it gets
there. -/
theorem execution_interrupted (catalog : Catalog) (depth : Nat) (b : Blueprint)
    (allowed : Option Nat) (polls : Nat) (sink : StagedSink)
    (bodyPropagates : b.body.Propagates) (catalogPropagates : catalog.Propagates) :
    let whole := sink.writer.accepted ++ utf8 (sink.staged ++ b.memoryText catalog depth)
    let stopped := (b.renderCancellable catalog depth allowed).drive polls sink
    ∃ settled handed, stopped.state.Interrupted whole settled handed ∧
      (stopped.outcome? = some (.ok ()) → handed = 0) := by
  intro whole stopped
  have follows := renderCancellable_follows_slow trivial
    (StagedSink.beside_respects sink.writer.accepted) catalog depth b allowed bodyPropagates
    catalogPropagates
  have start : (StagedSink.beside sink.writer.accepted).now sink ⟨sink.staged⟩ := rfl
  have run := follows.run start
  have delivered : whole = sink.writer.accepted ++
      utf8 ((b.renderCancellable catalog depth none).await (TextBuffer.mk sink.staged)).state.text := by
    rw [(b.await_seeded catalog depth none sink.staged).2, ← await_renderTo_memory]
    rfl
  cases polls with
  | zero =>
    refine ⟨sink.writer.accepted, 0, ⟨?_, by simp [stopped, Action.drive]⟩, fun _ => rfl⟩
    change sink.writer.accepted ++ utf8 sink.staged <+: whole
    simp only [whole, ScriptedWriter.utf8_append, ← List.append_assoc]
    exact List.prefix_append ..
  | succ more =>
    by_cases ok : stopped.outcome? = some (.ok ())
    · have same := (run.drive_ok more () ok).2
      refine ⟨stopped.state.writer.accepted, 0, ⟨?_, by simp⟩, fun _ => rfl⟩
      rw [delivered]
      exact same ▸ List.prefix_refl _
    · rw [delivered]
      obtain ⟨settled, handed, interrupted⟩ := run.visits_past.drive more
      exact ⟨settled, handed, interrupted, fun value => absurd value ok⟩

/-- What a render into a staged sink leaves at its writer, however it was cut short. The execution
stops with the writer at a prefix of the text; `handed` bytes of what is then still staged were
accepted. The last flush hands the staged text over from its start, as far as it comes, so the
writer ends with a prefix of the text exactly if these bytes are the ones that come next. They are
if none was accepted before, or none is now. -/
theorem accepted_prefix_iff (catalog : Catalog) (depth : Nat) (b : Blueprint)
    (allowed : Option Nat) (polls : Nat) (sink : StagedSink)
    (bodyPropagates : b.body.Propagates) (catalogPropagates : catalog.Propagates) :
    let whole := sink.writer.accepted ++ utf8 (sink.staged ++ b.memoryText catalog depth)
    let stopped := (b.renderCancellable catalog depth allowed).drive polls sink
    let left := ((b.renderTo catalog depth allowed).drive polls sink).state
    ∃ settled handed resent,
      stopped.state.Interrupted whole settled handed ∧
      left.writer.accepted =
        stopped.state.writer.accepted ++ (utf8 stopped.state.staged).take resent ∧
      (left.writer.accepted <+: whole ↔
        (utf8 stopped.state.staged).take resent <+:
          whole.drop stopped.state.writer.accepted.length) ∧
      (handed = 0 ∨ resent = 0 → left.writer.accepted <+: whole) ∧
      (stopped.outcome? = some (.ok ()) → handed = 0) ∧
      (stopped.outcome? = none → resent = 0) := by
  intro whole stopped left
  obtain ⟨settled, handed, interrupted, complete⟩ :=
    execution_interrupted catalog depth b allowed polls sink bodyPropagates catalogPropagates
  have resends : ∃ resent, left.writer.accepted =
      stopped.state.writer.accepted ++ (utf8 stopped.state.staged).take resent ∧
        (stopped.outcome? = none → resent = 0) := by
    refine drive_renderTo_visits catalog depth b allowed polls sink
      (P := fun s' => ∃ resent, s'.writer.accepted =
        stopped.state.writer.accepted ++ (utf8 stopped.state.staged).take resent ∧
          (stopped.outcome? = none → resent = 0)) ?_ ?_
    · refine ⟨0, ?_, fun _ => rfl⟩
      rw [List.take_zero, List.append_nil]
    · intro ended
      refine stopped.state.flush_visits.mono ?_
      rintro s' ⟨resent, accepted⟩
      exact ⟨resent, accepted, fun dropped => absurd dropped ended⟩
  obtain ⟨resent, accepted, unflushed⟩ := resends
  have prefixed : stopped.state.writer.accepted <+: whole := interrupted.accepted_prefix
  have exact_when : left.writer.accepted <+: whole ↔
      (utf8 stopped.state.staged).take resent <+:
        whole.drop stopped.state.writer.accepted.length := by
    obtain ⟨rest, next⟩ := prefixed
    rw [accepted, ← next, List.drop_left, List.prefix_append_right_inj]
  refine ⟨settled, handed, resent, interrupted, accepted, exact_when, ?_, complete, unflushed⟩
  rintro (untouched | unflushed)
  · have start : stopped.state.writer.accepted = settled := by
      rw [interrupted.accepted, untouched, List.take_zero, List.append_nil]
    rw [accepted, start]
    exact ((List.prefix_append_right_inj settled).mpr (List.take_prefix ..)).trans
      interrupted.continues
  · rw [accepted, unflushed, List.take_zero, List.append_nil]
    exact prefixed

/-- A page that flushes what it wrote. -/
def flushedPage : Blueprint :=
  { body := { name := "page", steps := [{ call := .literal "abc" }, { call := .flush }] } }

/-- The render is cancelled when two of the three bytes were accepted, and flushes once more. -/
theorem accepted_prefix_iff_flushedPage :
    flushedPage.body.Propagates ∧ Catalog.Propagates (fun _ => flushedPage) ∧
      let sink : StagedSink := { writer := { script := [.accept 2, .notReady] } }
      let whole := utf8 (flushedPage.memoryText (fun _ => flushedPage) 1)
      let stopped := (flushedPage.renderCancellable (fun _ => flushedPage) 1 (some 1)).drive 3 sink
      let left := ((flushedPage.renderTo (fun _ => flushedPage) 1 (some 1)).drive 3 sink).state
      ∃ settled handed resent,
        stopped.state.Interrupted whole settled handed ∧
        left.writer.accepted =
          stopped.state.writer.accepted ++ (utf8 stopped.state.staged).take resent ∧
        (left.writer.accepted <+: whole ↔
          (utf8 stopped.state.staged).take resent <+:
            whole.drop stopped.state.writer.accepted.length) := by
  have bodyPropagates : flushedPage.body.Propagates := by decide
  have catalogPropagates : Catalog.Propagates (fun _ => flushedPage) := fun _ => bodyPropagates
  refine ⟨bodyPropagates, catalogPropagates, ?_⟩
  obtain ⟨settled, handed, resent, interrupted, accepted, exact_when, -⟩ :=
    accepted_prefix_iff (fun _ => flushedPage) 1 flushedPage (some 1) 3
      { writer := { script := [.accept 2, .notReady] } } bodyPropagates catalogPropagates
  simp only [List.nil_append, String.empty_append] at interrupted exact_when
  exact ⟨settled, handed, resent, interrupted, accepted, exact_when⟩

/-- The writer takes two of the three bytes and then fails; the last flush sends all three, and
the writer ends with `ababc`. -/
theorem flushedPage_resent :
    let catalog : Catalog := fun _ => flushedPage
    let sink : StagedSink := { writer := { script := [.accept 2, .error "reset"] } }
    let left := ((flushedPage.renderTo catalog 1 none).await sink).state
    flushedPage.body.Propagates ∧ flushedPage.memoryText catalog 1 = "abc" ∧
      left.writer.accepted = utf8 "ababc" ∧
      ¬ left.writer.accepted <+: utf8 (flushedPage.memoryText catalog 1) := by
  decide

end Blueprint

end Templating
