import Templating.Proofs.InterruptedDrain
import Templating.Proofs.IssuedTexts
import Templating.Proofs.Postconditions
import Templating.Proofs.UnfailingSinks

/-!
# What a sink took it keeps

A text that a sink took stands in one piece in what the sink comes to hold, and stays there
whatever is written afterwards and whatever fails: a sink never takes anything back. `Retains` says
so of a kind of sink. It holds of memory, of recorders that refuse any writes, of blocking sinks
over any writer, and of staged sinks over any writer, where a text may have to wait for a flush that
succeeds.
-/

namespace Templating

open ScriptedWriter (utf8)

variable {σ ω : Type}

/-- `part` stands in `whole`, in one piece. -/
def Occurs (part whole : String) : Prop :=
  ∃ before after, whole = before ++ part ++ after

namespace Occurs

variable {part text whole : String}

theorem refl (text : String) : Occurs text text :=
  ⟨"", "", by simp⟩

theorem trans (inner : Occurs part text) (outer : Occurs text whole) : Occurs part whole := by
  obtain ⟨before, after, rfl⟩ := inner
  obtain ⟨before', after', rfl⟩ := outer
  exact ⟨before' ++ before, after ++ after', by simp only [String.append_assoc]⟩

theorem append_left (occurs : Occurs part text) (more : String) : Occurs part (text ++ more) := by
  obtain ⟨before, after, rfl⟩ := occurs
  exact ⟨before, after ++ more, by simp only [String.append_assoc]⟩

theorem append_right (occurs : Occurs part text) (more : String) : Occurs part (more ++ text) := by
  obtain ⟨before, after, rfl⟩ := occurs
  exact ⟨more ++ before, after, by simp only [String.append_assoc]⟩

theorem of_toList (inside : part.toList <:+: whole.toList) : Occurs part whole := by
  obtain ⟨before, after, same⟩ := inside
  refine ⟨String.ofList before, String.ofList after, ?_⟩
  rw [← String.toList_inj]
  simp [← same]

end Occurs

/-- Since it was `start`, the data has come to hold `text` in one piece. -/
def Gained (encode : String → List ω) (start : List ω) (text : String) (data : List ω) : Prop :=
  ∃ more, data = start ++ more ∧ encode text <:+: more

namespace Gained

variable {encode : String → List ω} {start data data' : List ω} {part text : String}

theorem grow (gained : Gained encode start text data) (grows : data <+: data') :
    Gained encode start text data' := by
  obtain ⟨more, rfl, inside⟩ := gained
  obtain ⟨later, rfl⟩ := grows
  exact ⟨more ++ later, List.append_assoc .., inside.trans (List.infix_append' [] more later)⟩

theorem of_append (reached : start <+: data) {piece : List ω} (inside : encode text <:+: piece) :
    Gained encode start text (data ++ piece) := by
  obtain ⟨more, rfl⟩ := reached
  exact ⟨more ++ piece, List.append_assoc .., inside.trans (List.suffix_append more piece).isInfix⟩

theorem of_occurs (homomorphic : ∀ s t, encode (s ++ t) = encode s ++ encode t)
    (occurs : Occurs part text) (gained : Gained encode start text data) :
    Gained encode start part data := by
  obtain ⟨before, after, rfl⟩ := occurs
  obtain ⟨more, rfl, inside⟩ := gained
  rw [homomorphic, homomorphic] at inside
  exact ⟨more, rfl, (List.infix_append (encode before) (encode part) (encode after)).trans inside⟩

end Gained

/-- What a kind of sink took it keeps. `reached` holds of every state that matters; there, a text
that the sink took is held from then on with all its parts, and shows after a flush that
succeeds. -/
structure Retains [Destination σ] (reached : σ → Prop) (holds shown : String → σ → Prop) : Prop where
  reaches : Logged.Kept fun _ => reached
  keeps : ∀ text, Logged.Kept fun _ => holds text
  write : ∀ text s s', reached s → Destination.write text s = (.ok (), s') → holds text s'
  flushed : ∀ text s s', holds text s → (Action.flush s).Returns () s' → shown text s'
  part : ∀ part whole s, Occurs part whole → holds whole s → holds part s

namespace Retains

/-- A sink whose content only grows, and by every text that it takes. -/
theorem of_growing [Destination σ] {encode : String → List ω} {content : σ → List ω}
    (homomorphic : ∀ s t, encode (s ++ t) = encode s ++ encode t)
    (write_grows : ∀ text s, (Action.write text s).Visits (content s <+: content ·))
    (writeAsync_grows : ∀ text s, (Action.writeAsync text s).Visits (content s <+: content ·))
    (flush_grows : ∀ s, (Action.flush s : Run σ Unit).Visits (content s <+: content ·))
    (takes : ∀ text s s', Destination.write text s = (.ok (), s') →
      content s' = content s ++ encode text) (start : List ω) :
    Retains (start <+: content ·) (fun text s => Gained encode start text (content s))
      fun text s => Gained encode start text (content s) where
  reaches := {
    write := fun _ s text reached => (write_grows text s).mono fun _ => reached.trans
    writeAsync := fun _ s text reached => (writeAsync_grows text s).mono fun _ => reached.trans
    flush := fun _ s reached => (flush_grows s).mono fun _ => reached.trans }
  keeps _ := {
    write := fun _ s text gained => (write_grows text s).mono fun _ => gained.grow
    writeAsync := fun _ s text gained => (writeAsync_grows text s).mono fun _ => gained.grow
    flush := fun _ s gained => (flush_grows s).mono fun _ => gained.grow }
  write text s s' reached taken := by
    rw [takes text s s' taken]
    exact .of_append reached (List.infix_refl _)
  flushed text s s' gained flushed := by
    obtain ⟨more, -, rfl⟩ := flushed.drive
    exact gained.grow ((flush_grows s).drive more)
  part _ _ _ := Gained.of_occurs homomorphic

end Retains

namespace TextBuffer

def content (b : TextBuffer) : List Char :=
  b.text.toList

theorem content_push (b : TextBuffer) (text : String) :
    (b.push text).content = b.content ++ text.toList :=
  String.toList_append

theorem retains (start : List Char) :
    Retains (start <+: content ·) (fun text b => Gained String.toList start text b.content)
      fun text b => Gained String.toList start text b.content := by
  have grows : ∀ text (b : TextBuffer), b.content <+: (b.push text).content := by
    intro text b
    rw [content_push]
    exact List.prefix_append ..
  refine .of_growing (fun _ _ => String.toList_append) grows grows (fun b => List.prefix_refl _) ?_ start
  rintro text b _ ⟨⟩
  exact b.content_push text

end TextBuffer

namespace Recorder

theorem retains (start : List Char) :
    Retains (start <+: delivered ·) (fun text r => Gained String.toList start text r.delivered)
      fun text r => Gained String.toList start text r.delivered := by
  have grows : ∀ kind text (r : Recorder), r.delivered <+: (r.take kind text).2.delivered := by
    intro kind text r
    rw [delivered_take]
    exact List.prefix_append ..
  refine .of_growing (fun _ _ => String.toList_append)
    (fun text r => Action.ofStep_visits (grows .sync text r)) ?_ ?_ ?_ start
  · intro text r
    have taken : (Action.ofStep (take .async text) r).Visits (r.delivered <+: ·.delivered) :=
      Action.ofStep_visits (grows .async text r)
    rw [writeAsync_eq]
    split
    · exact ⟨List.prefix_refl _, taken⟩
    · exact taken
  · intro r
    rw [flush_eq]
    exact List.prefix_refl _
  · intro text r r' taken
    have held := r.delivered_take .sync text
    change take .sync text r = _ at taken
    rw [taken] at held
    rw [held]
    unfold take at taken
    dsimp only at taken
    split at taken
    · cases taken
    · next accepted => rw [if_neg accepted]

end Recorder

namespace BlockingSink

theorem retains (start : List UInt8) :
    Retains (start <+: delivered ·) (fun text b => Gained utf8 start text b.delivered)
      fun text b => Gained utf8 start text b.delivered := by
  have sent : ∀ text (b : BlockingSink), ∃ n,
      (send text b).2.delivered = b.delivered ++ (utf8 text).take n ∧
        ((send text b).1 = .ok () → (utf8 text).take n = utf8 text) := by
    intro text b
    obtain ⟨n, script', taken, all⟩ := b.writer.sendBlocking_takes b.writer.script (utf8 text)
    exact ⟨n, congrArg ScriptedWriter.accepted taken, all⟩
  have grows : ∀ text (b : BlockingSink),
      (Action.ofStep (send text) b).Visits (b.delivered <+: ·.delivered) := by
    intro text b
    obtain ⟨n, accepted, -⟩ := sent text b
    refine Action.ofStep_visits ?_
    rw [accepted]
    exact List.prefix_append ..
  refine .of_growing ScriptedWriter.utf8_append grows grows (fun b => ?_) ?_ start
  · have kept : b.pushThrough.2.delivered = b.delivered := b.pushThrough_delivered
    exact Action.ofStep_visits (kept.symm ▸ List.prefix_refl b.delivered)
  · intro text b b' taken
    obtain ⟨n, accepted, all⟩ := sent text b
    change send text b = _ at taken
    rw [taken] at accepted all
    rw [accepted, all rfl]

end BlockingSink

/-- A writer that says it has taken a text has taken all of it. -/
theorem ScriptedWriter.sendAsync_ensures (w : ScriptedWriter) (script : List WriteAnswer)
    (bytes : List UInt8) :
    (w.sendAsync script bytes).Ensures (w.accepted <+: ·.accepted) fun o w' =>
      w.accepted <+: w'.accepted ∧ (o = .ok () → w'.accepted = w.accepted ++ bytes) := by
  induction script generalizing w bytes with
  | nil =>
    cases bytes with
    | nil => exact ⟨List.prefix_refl _, fun _ => (List.append_nil _).symm⟩
    | cons b bytes => exact ⟨List.prefix_append .., fun _ => rfl⟩
  | cons answer script ih =>
    cases bytes with
    | nil => exact ⟨List.prefix_refl _, fun _ => (List.append_nil _).symm⟩
    | cons b bytes =>
      have unchanged : ∀ e, (Run.done (.failed e) { w with script } : Run ScriptedWriter Unit).Ensures
          (w.accepted <+: ·.accepted) fun o w' =>
            w.accepted <+: w'.accepted ∧
              (o = .ok () → w'.accepted = w.accepted ++ (b :: bytes)) :=
        fun e => ⟨List.prefix_refl _, nofun⟩
      cases answer with
      | accept count =>
        cases count with
        | zero => exact unchanged _
        | succ count =>
          have portion : w.accepted <+: (w.accept (b :: bytes.take count)).accepted :=
            List.prefix_append ..
          refine (ih (w.accept (b :: bytes.take count)) (bytes.drop count)).mono
            (fun w' grows => portion.trans grows) ?_
          rintro o w' ⟨grows, all⟩
          refine ⟨portion.trans grows, fun ok => ?_⟩
          rw [all ok, accept, List.append_assoc, List.cons_append, List.take_append_drop]
      | notReady => exact ⟨List.prefix_refl _, ih w (b :: bytes)⟩
      | interrupted => exact ih w (b :: bytes)
      | error cause => exact unchanged _

namespace StagedSink

/-- The text was handed over since the writer had accepted `start`, or it is staged. -/
def Holds (start : List UInt8) (text : String) (s : StagedSink) : Prop :=
  start <+: s.writer.accepted ∧
    (Gained utf8 start text s.writer.accepted ∨ Occurs text s.staged)

theorem Holds.of_occurs {start : List UInt8} {part text : String} {s : StagedSink}
    (occurs : Occurs part text) (holds : s.Holds start text) : s.Holds start part :=
  ⟨holds.1, holds.2.imp (.of_occurs ScriptedWriter.utf8_append occurs) occurs.trans⟩

theorem Holds.of_accepted {start : List UInt8} {text : String} {s s' : StagedSink}
    (holds : s.Holds start text) (staged : s'.staged = s.staged)
    (grows : s.writer.accepted <+: s'.writer.accepted) : s'.Holds start text :=
  ⟨holds.1.trans grows, holds.2.imp (·.grow grows) fun occurs => staged ▸ occurs⟩

theorem send_visits (text : String) (s : StagedSink) :
    (send text s).Visits fun s' =>
      s'.staged = s.staged ∧ s.writer.accepted <+: s'.writer.accepted := by
  refine (s.writer.sendAsync_visits s.writer.script (utf8 text)).recast ?_
  rintro w ⟨n, accepted⟩
  exact ⟨rfl, accepted ▸ List.prefix_append ..⟩

/-- Cut short or not, draining does not lose a text; once it has succeeded the text is handed
over. -/
theorem drain_ensures {start : List UInt8} {text : String} {s : StagedSink}
    (holds : s.Holds start text) :
    (drain s).Ensures (Holds start text) fun o s' => s'.Holds start text ∧
      (o = .ok () → Gained utf8 start text s'.writer.accepted) := by
  have sent : (send s.staged s).Ensures (Holds start text) fun o s' => s'.Holds start text ∧
      (o = .ok () → s'.staged = s.staged ∧
        s'.writer.accepted = s.writer.accepted ++ utf8 s.staged) := by
    refine (s.writer.sendAsync_ensures s.writer.script (utf8 s.staged)).recast
      (fun w grows => holds.of_accepted rfl grows) ?_
    rintro o w ⟨grows, all⟩
    exact ⟨holds.of_accepted rfl grows, fun ok => ⟨rfl, all ok⟩⟩
  have drained : drain s = (send s.staged s).bind fun _ s' => .done (.ok ()) { s' with staged := "" } :=
    rfl
  rw [drained]
  refine Run.Ensures.bind sent ?_ ?_
  · rintro _ s' ⟨-, all⟩
    obtain ⟨-, accepted⟩ := all rfl
    have grows : s.writer.accepted <+: s'.writer.accepted := accepted ▸ List.prefix_append ..
    have gained : Gained utf8 start text s'.writer.accepted := by
      rcases holds.2 with earlier | ⟨before, after, staged⟩
      · exact earlier.grow grows
      · rw [accepted, staged, ScriptedWriter.utf8_append, ScriptedWriter.utf8_append]
        exact .of_append holds.1 (List.infix_append ..)
    exact ⟨⟨holds.1.trans grows, .inl gained⟩, fun _ => gained⟩
  · rintro o s' ⟨kept, -⟩ o' passed
    refine ⟨kept, fun ok => ?_⟩
    have failing := Outcome.not_isOk_of_passOn? passed
    rw [ok] at failing
    cases failing

theorem pushThrough_visits (s : StagedSink) :
    (pushThrough s).Visits fun s' =>
      s'.staged = s.staged ∧ s'.writer.accepted = s.writer.accepted :=
  (s.writer.flushAsync_visits s.writer.flushScript).recast fun _ accepted => ⟨rfl, accepted⟩

theorem holds_kept (start : List UInt8) (text : String) : Logged.Kept fun _ => Holds start text := by
  have drained : ∀ {s} (k : Unit → Action StagedSink Unit), s.Holds start text →
      (∀ s', s'.Holds start text → (k () s').Visits (Holds start text)) →
      ((drain s).bind k).Visits (Holds start text) := fun k holds next =>
    ((drain_ensures holds).visits (fun _ held => held) fun _ _ held => held.1).bind fun _ => next
  refine ⟨fun _ s more holds => ?_, fun _ s more holds => drained (fun _ => send more) holds ?_,
    fun _ s holds => drained (fun _ => pushThrough) holds ?_⟩
  · exact ⟨holds.1, holds.2.imp_right (·.append_left more)⟩
  · intro s' holds'
    exact (send_visits more s').mono fun s'' ⟨staged, grows⟩ => holds'.of_accepted staged grows
  · intro s' holds'
    exact (pushThrough_visits s').mono fun s'' ⟨staged, accepted⟩ =>
      holds'.of_accepted staged (accepted ▸ List.prefix_refl _)

theorem retains (start : List UInt8) :
    Retains (start <+: ·.writer.accepted) (Holds start) fun text s =>
      Gained utf8 start text s.writer.accepted where
  reaches := by
    -- to have reached `start` is to hold the empty text
    have empty : ∀ s : StagedSink, start <+: s.writer.accepted → s.Holds start "" := fun s reached =>
      ⟨reached, .inr ⟨"", s.staged, by simp⟩⟩
    have kept := holds_kept start ""
    exact ⟨fun _ s text reached => (kept.write [] s text (empty s reached)).mono fun _ held => held.1,
      fun _ s text reached => (kept.writeAsync [] s text (empty s reached)).mono fun _ held => held.1,
      fun _ s reached => (kept.flush [] s (empty s reached)).mono fun _ held => held.1⟩
  keeps := holds_kept start
  write text s s' reached taken := by
    cases taken
    exact ⟨reached, .inr ((Occurs.refl text).append_right s.staged)⟩
  flushed text s s' holds flushed := by
    obtain ⟨_, s₁, drained, pushed⟩ := (Run.returns_bind (drain s) (fun _ => pushThrough) () s').mp
      flushed
    obtain ⟨more, ok, state⟩ := drained.drive
    have gained := (((drain_ensures holds).drive more).1 _ ok).2 rfl
    obtain ⟨more', -, state'⟩ := pushed.drive
    have accepted := ((pushThrough_visits s₁).drive more').2
    rw [state'] at accepted
    rw [accepted, ← state]
    exact gained
  part _ _ _ := Holds.of_occurs

end StagedSink

end Templating
