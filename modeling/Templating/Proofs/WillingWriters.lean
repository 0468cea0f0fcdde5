import Templating.Destination.StagedSink
import Templating.Proofs.SinkCalls

/-!
# Sinks over willing writers

A writer is willing if it fails at nothing, though it may be slow and take texts in pieces. Over
such a writer every call on a staged sink comes to its end, and what the sink holds, first the bytes
that the writer accepted and then those that are staged, grows by the text of the call
(`StagedSink.perform_returns`). So after any calls, each polled to its end before the next is made,
the texts stand there in the order of the calls (`StagedSink.performAll_order`).
-/

namespace Templating

open ScriptedWriter (utf8)

variable {σ : Type}

/-- The writer takes something, or is to be asked again. -/
def WriteAnswer.isWilling : WriteAnswer → Bool
  | accept count => count != 0
  | notReady | interrupted => true
  | error _ => false

def FlushAnswer.isWilling : FlushAnswer → Bool
  | ok | notReady => true
  | error _ => false

namespace ScriptedWriter

/-- The writer fails at nothing, though it may be slow and take texts in pieces. -/
def isWilling (w : ScriptedWriter) : Bool :=
  w.script.all WriteAnswer.isWilling && w.flushScript.all FlushAnswer.isWilling

theorem isWilling_iff (w : ScriptedWriter) :
    w.isWilling = true ↔ w.script.all WriteAnswer.isWilling = true ∧
      w.flushScript.all FlushAnswer.isWilling = true :=
  Bool.and_eq_true_iff

/-- A willing writer takes all of a text. -/
theorem sendAsync_returns (w : ScriptedWriter) {script : List WriteAnswer} (bytes : List UInt8)
    (willing : ({ w with script } : ScriptedWriter).isWilling = true) :
    ∃ w', (w.sendAsync script bytes).Returns () w' ∧ w'.isWilling = true ∧
      w'.accepted = w.accepted ++ bytes := by
  obtain ⟨writes, flushes⟩ := (isWilling_iff _).mp willing
  dsimp only at writes flushes
  -- the induction is on the answers that are left; an accepted part leaves fewer bytes
  induction script generalizing w bytes with
  | nil =>
    cases bytes with
    | nil => exact ⟨{ w with script := [] }, ⟨rfl, rfl⟩, willing, by simp⟩
    | cons byte bytes => exact ⟨_, ⟨rfl, rfl⟩, willing, rfl⟩
  | cons answer script ih =>
    cases bytes with
    | nil => exact ⟨{ w with script := answer :: script }, ⟨rfl, rfl⟩, willing, by simp⟩
    | cons byte bytes =>
      rw [List.all_cons, Bool.and_eq_true_iff] at writes
      have later : ({ w with script } : ScriptedWriter).isWilling = true :=
        (isWilling_iff _).mpr ⟨writes.2, flushes⟩
      cases answer with
      | accept count =>
        cases count with
        | zero => simp [WriteAnswer.isWilling] at writes
        | succ count =>
          obtain ⟨w', returns, still, accepted⟩ :=
            ih (w.accept (byte :: bytes.take count)) (bytes.drop count) later writes.2 flushes
          refine ⟨w', returns, still, accepted.trans ?_⟩
          simp [accept]
      | notReady => exact ih w (byte :: bytes) later writes.2 flushes
      | interrupted => exact ih w (byte :: bytes) later writes.2 flushes
      | error cause => simp [WriteAnswer.isWilling] at writes

/-- A willing writer is flushed in the end. -/
theorem flushAsync_returns (w : ScriptedWriter) {script : List FlushAnswer}
    (willing : ({ w with flushScript := script } : ScriptedWriter).isWilling = true) :
    ∃ w', (w.flushAsync script).Returns () w' ∧ w'.isWilling = true ∧
      w'.accepted = w.accepted := by
  obtain ⟨writes, flushes⟩ := (isWilling_iff _).mp willing
  dsimp only at writes flushes
  induction script generalizing w with
  | nil => exact ⟨_, ⟨rfl, rfl⟩, willing, rfl⟩
  | cons answer script ih =>
    rw [List.all_cons, Bool.and_eq_true_iff] at flushes
    have later : ({ w with flushScript := script } : ScriptedWriter).isWilling = true :=
      (isWilling_iff _).mpr ⟨writes, flushes.2⟩
    cases answer with
    | ok => exact ⟨_, ⟨rfl, rfl⟩, later, rfl⟩
    | notReady => exact ih w later writes flushes.2
    | error cause => simp [FlushAnswer.isWilling] at flushes

end ScriptedWriter

namespace SinkCall

/-- The text that the call writes. -/
def text : SinkCall → String
  | write text | writeAsync text => text
  | flush => ""

/-- The call hands over what is staged. -/
def drains : SinkCall → Bool
  | write _ => false
  | writeAsync _ | flush => true

def perform [Destination σ] : SinkCall → Action σ Unit
  | write text => .write text
  | writeAsync text => .writeAsync text
  | flush => .flush

/-- What calls leave of a sink, each of them polled to its end before the next is made. -/
def performAll [Destination σ] (calls : List SinkCall) (s : σ) : σ :=
  calls.foldl (fun s call => (call.perform.await s).state) s

end SinkCall

namespace StagedSink

/-- The bytes that the writer accepted, and those that are still staged. -/
def held (s : StagedSink) : List UInt8 :=
  s.writer.accepted ++ utf8 s.staged

@[simp] theorem held_stage (s : StagedSink) (text : String) :
    (s.stage text).held = s.held ++ utf8 text := by
  simp [held, stage, ScriptedWriter.utf8_append]

theorem held_unstaged (w : ScriptedWriter) :
    ({ writer := w, staged := "" } : StagedSink).held = w.accepted := by
  simp [held, utf8]

variable {s : StagedSink}

theorem send_returns (text : String) (willing : s.writer.isWilling = true) :
    ∃ w, (send text s).Returns () { s with writer := w } ∧ w.isWilling = true ∧
      w.accepted = s.writer.accepted ++ utf8 text := by
  obtain ⟨w, returns, still, accepted⟩ := s.writer.sendAsync_returns (utf8 text) willing
  exact ⟨w, (Run.returns_recast ..).mpr ⟨w, returns, rfl⟩, still, accepted⟩

theorem drain_returns (willing : s.writer.isWilling = true) :
    ∃ w, (drain s).Returns () { writer := w, staged := "" } ∧ w.isWilling = true ∧
      w.accepted = s.held := by
  obtain ⟨w, sent, still, accepted⟩ := send_returns s.staged willing
  refine ⟨w, ?_, still, accepted⟩
  have drained : drain s =
      (send s.staged s).bind fun _ s => .done (.ok ()) { s with staged := "" } := rfl
  rw [drained, Run.returns_bind]
  exact ⟨(), _, sent, rfl, rfl⟩

theorem writeAsync_returns (text : String) (willing : s.writer.isWilling = true) :
    ∃ w, (Action.writeAsync text s).Returns () { writer := w, staged := "" } ∧
      w.isWilling = true ∧ w.accepted = s.held ++ utf8 text := by
  obtain ⟨w, drained, still, accepted⟩ := drain_returns willing
  obtain ⟨w', sent, still', accepted'⟩ :=
    send_returns (s := { writer := w, staged := "" }) text still
  refine ⟨w', ?_, still', by rw [accepted', accepted]⟩
  exact (Run.returns_bind (drain s) (fun _ => send text) () _).mpr ⟨(), _, drained, sent⟩

theorem flush_returns (willing : s.writer.isWilling = true) :
    ∃ w, (Action.flush s).Returns () { writer := w, staged := "" } ∧ w.isWilling = true ∧
      w.accepted = s.held := by
  obtain ⟨w, drained, still, accepted⟩ := drain_returns willing
  obtain ⟨w', flushed, still', accepted'⟩ := w.flushAsync_returns still
  refine ⟨w', ?_, still', accepted'.trans accepted⟩
  exact (Run.returns_bind (drain s) (fun _ => pushThrough) () _).mpr
    ⟨(), _, drained, (Run.returns_recast ..).mpr ⟨w', flushed, rfl⟩⟩

/-- What one call does: it ends, the text of the call comes last of what the sink holds, and what
hands over leaves nothing staged. -/
theorem perform_returns (call : SinkCall) (willing : s.writer.isWilling = true) :
    ∃ s', (call.perform s).Returns () s' ∧ s'.writer.isWilling = true ∧
      s'.held = s.held ++ utf8 call.text ∧ (call.drains = true → s'.staged = "") := by
  cases call with
  | write text => exact ⟨s.stage text, ⟨rfl, rfl⟩, willing, held_stage s text, nofun⟩
  | writeAsync text =>
    obtain ⟨w, returns, still, accepted⟩ := writeAsync_returns text willing
    exact ⟨_, returns, still, (held_unstaged w).trans accepted, fun _ => rfl⟩
  | flush =>
    obtain ⟨w, returns, still, accepted⟩ := flush_returns willing
    refine ⟨_, returns, still, ?_, fun _ => rfl⟩
    rw [held_unstaged, accepted, SinkCall.text, show utf8 "" = [] from rfl, List.append_nil]

/-- What calls do one after the other. -/
theorem performAll_held (calls : List SinkCall) (willing : s.writer.isWilling = true) :
    (SinkCall.performAll calls s).writer.isWilling = true ∧
      (SinkCall.performAll calls s).held =
        s.held ++ utf8 (String.join (calls.map SinkCall.text)) := by
  induction calls generalizing s with
  | nil => exact ⟨willing, (List.append_nil _).symm⟩
  | cons call calls ih =>
    obtain ⟨s', returns, still, held, -⟩ := perform_returns call willing
    have next : SinkCall.performAll (call :: calls) s = SinkCall.performAll calls s' := by
      rw [← returns.2]
      rfl
    obtain ⟨still', held'⟩ := ih still
    refine ⟨next ▸ still', ?_⟩
    rw [next, held', held, List.map_cons, String.join_cons, ScriptedWriter.utf8_append,
      List.append_assoc]

/-- Calls on a staged sink over a willing writer, each polled to its end before the next is made.
After every call the bytes that the writer accepted, and behind them the staged ones, are those of
all texts written so far, in the order of the calls. Every call returns without an error. A
synchronous write does nothing but stage its text, so the writer is not called; an asynchronous
write and a flush leave nothing staged. -/
theorem performAll_order (willing : s.writer.isWilling = true) (calls : List SinkCall)
    (call : SinkCall) :
    let before := SinkCall.performAll calls s
    let last := call.perform.await before
    last.outcome? = some (.ok ()) ∧
      last.state = SinkCall.performAll (calls ++ [call]) s ∧
      last.state.writer.accepted ++ utf8 last.state.staged =
        s.writer.accepted ++ utf8 s.staged ++
          utf8 (String.join ((calls ++ [call]).map SinkCall.text)) ∧
      (∀ text, call = .write text →
        last.polls = 1 ∧ last.state.writer = before.writer ∧
          last.state.staged = before.staged ++ text) ∧
      (call.drains = true → last.state.staged = "") := by
  intro before last
  obtain ⟨still, -⟩ := performAll_held calls willing
  obtain ⟨s', returns, -, -, unstaged⟩ := perform_returns call still
  have made : last.state = SinkCall.performAll (calls ++ [call]) s := by
    simp only [SinkCall.performAll, List.foldl_append, List.foldl_cons, List.foldl_nil]
    rfl
  refine ⟨returns.1, made, ?_, ?_, ?_⟩
  · rw [made]
    exact (performAll_held (calls ++ [call]) willing).2
  · rintro text rfl
    exact ⟨rfl, rfl, rfl⟩
  · intro drains
    have ended : last.state = s' := returns.2
    rw [ended]
    exact unstaged drains

/-- A sink over a writer that takes few bytes at a time, cuts characters in two and is often not
ready. -/
def haltingSink : StagedSink :=
  { writer := {
      script := [.accept 1, .notReady, .accept 2, .accept 1, .notReady, .accept 3]
      flushScript := [.notReady, .ok] } }

theorem performAll_order_haltingSink :
    let calls := [SinkCall.write "ü", .write "b", .writeAsync "é", .write "c"]
    let before := SinkCall.performAll calls haltingSink
    let flushed := SinkCall.perform .flush |>.await before
    haltingSink.writer.isWilling = true ∧
      before.writer.accepted = utf8 "übé" ∧ before.staged = "c" ∧
      flushed.polls = 2 ∧ flushed.state.writer.accepted = utf8 "übéc" := by
  have willing : haltingSink.writer.isWilling = true := by decide
  refine ⟨willing, by decide +kernel, by decide +kernel, by decide +kernel, ?_⟩
  obtain ⟨-, -, order, -, unstaged⟩ :=
    performAll_order willing [.write "ü", .write "b", .writeAsync "é", .write "c"] .flush
  rw [unstaged rfl, show utf8 "" = [] from rfl, List.append_nil] at order
  exact order

end StagedSink

end Templating
