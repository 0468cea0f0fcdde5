import Templating.Proofs.Independence

/-!
# Issued texts

`Logged σ` is a sink of kind `σ` that keeps a log of every text that is issued to it, whether the
sink takes the text or not. What is issued does not depend on the log (`Logged.beside_respects`),
so the texts of a call are what it would issue to a log around its frame (`Call.issued`). Each of
them goes to the innermost capture of the frame, or else to its sink (`Call.perform_posted`).
-/

namespace Templating

/-- A sink, and the texts that were issued to it. -/
structure Logged (σ : Type) where
  sink : σ
  texts : List String := []

variable {σ τ α : Type}

instance [Destination σ] : Destination (Logged σ) where
  write text l :=
    let (result, sink) := Destination.write text l.sink
    (result, { sink, texts := l.texts ++ [text] })
  writeAsync text := fun l =>
    (Action.writeAsync text l.sink).recast ({ sink := ·, texts := l.texts ++ [text] })
      fun o _ => o
  flush := fun l => (Action.flush l.sink).recast ({ sink := ·, texts := l.texts }) fun o _ => o

namespace Logged

variable [Destination σ]

theorem write_eq (text : String) (l : Logged σ) :
    Action.write text l =
      (Action.write text l.sink).recast ({ sink := ·, texts := l.texts ++ [text] })
        fun o _ => o := by
  cases h : Destination.write text l.sink with
  | mk result sink =>
    cases result <;> simp [Action.write, Action.ofStep, Destination.write, h, Run.recast]

theorem write_visits (text : String) (l : Logged σ) :
    (Action.write text l).Visits fun l' => l'.texts = l.texts ++ [text] := by
  rw [write_eq]
  exact (Run.Visits.trivially _).recast fun _ _ => rfl

theorem writeAsync_visits (text : String) (l : Logged σ) :
    (Action.writeAsync text l).Visits fun l' => l'.texts = l.texts ++ [text] :=
  (Run.Visits.trivially (Action.writeAsync text l.sink)).recast fun _ _ => rfl

theorem flush_visits (l : Logged σ) :
    (Action.flush l).Visits fun l' => l'.texts = l.texts :=
  (Run.Visits.trivially (Action.flush l.sink)).recast fun _ _ => rfl

/-- A sink beside the same sink with a log, as long as the log and the sink agree. -/
def beside (agree : List String → σ → Prop) : Coupling σ (Logged σ) where
  now s l := l.sink = s ∧ agree l.texts s
  past _ _ := True
  lossy := False
  now_past _ _ _ := trivial

omit [Destination σ] in
/-- A run beside the same run with a log that stays as it is. -/
theorem recast_follows {agree : List String → σ → Prop} {texts : List String} (r : Run σ α)
    (agrees : r.Visits (agree texts)) :
    r.Follows (beside agree) (r.recast ({ sink := ·, texts }) fun o _ => o) := by
  induction r with
  | done o s => exact .done o ⟨rfl, agrees⟩
  | note e rest ih => exact .noteLeft e (.noteRight e (ih agrees))
  | pause s rest ih =>
    exact .pause ⟨rfl, agrees.1⟩ (.trivially _) (ih () agrees.2)
  | stalled s => exact .stalled ⟨rfl, agrees⟩

/-- What holds of a sink and the texts that were issued to it, if every write keeps it so. -/
structure Kept (agree : List String → σ → Prop) : Prop where
  write : ∀ texts s text, agree texts s →
    (Action.write text s).Visits (agree (texts ++ [text]))
  writeAsync : ∀ texts s text, agree texts s →
    (Action.writeAsync text s).Visits (agree (texts ++ [text]))
  flush : ∀ texts s, agree texts s → (Action.flush s : Run σ Unit).Visits (agree texts)

theorem beside_respects {agree : List String → σ → Prop} (kept : Kept agree) :
    (beside agree).Respects where
  write text := by
    refine ⟨?_, fun _ => .trivially _⟩
    rintro s l ⟨rfl, agrees⟩
    rw [write_eq]
    exact recast_follows _ (kept.write _ _ text agrees)
  writeAsync text := by
    refine ⟨?_, fun _ => .trivially _⟩
    rintro s l ⟨rfl, agrees⟩
    exact recast_follows _ (kept.writeAsync _ _ text agrees)
  flush := by
    refine ⟨?_, fun _ => .trivially _⟩
    rintro s l ⟨rfl, agrees⟩
    exact recast_follows _ (kept.flush _ _ agrees)

theorem true_kept : Kept fun _ (_ : σ) => True where
  write _ _ _ _ := .trivially _
  writeAsync _ _ _ _ := .trivially _
  flush _ _ _ := .trivially _

/-- A sink beside the same sink with a log, whatever the log. -/
theorem beside_any_respects : (beside fun _ (_ : σ) => True).Respects :=
  beside_respects true_kept

end Logged

/-- Coupled sinks to which the same texts were issued. -/
def Coupling.logged (c : Coupling σ τ) : Coupling (Logged σ) (Logged τ) where
  now l m := l.texts = m.texts ∧ c.now l.sink m.sink
  past l m := c.past l.sink m.sink
  lossy := c.lossy
  slow := c.slow
  slow_lossy := c.slow_lossy
  now_past l m same := c.now_past l.sink m.sink same.2

theorem Coupling.Respects.logged [Destination σ] [Destination τ] {c : Coupling σ τ}
    (respects : c.Respects) : c.logged.Respects := by
  have handedOn : ∀ {act : Action σ Unit} {ref : Action τ Unit} (more : List String),
      Action.Follows c act ref →
      Action.Follows c.logged
        (fun l => (act l.sink).recast ({ sink := ·, texts := l.texts ++ more }) fun o _ => o)
        (fun m => (ref m.sink).recast ({ sink := ·, texts := m.texts ++ more }) fun o _ => o) := by
    intro act ref more follows
    exact follows.focus id id (fun _ _ same => same.2) (fun _ _ past => past)
      (fun _ _ _ _ same here => ⟨congrArg (· ++ more) same.1, here⟩)
      (fun _ _ _ _ _ past => past) fun _ _ _ _ past => past
  refine ⟨fun text => ?_, fun text => handedOn [text] (respects.writeAsync text), ?_⟩
  · have wrote := handedOn [text] (respects.write text)
    rw [← funext (Logged.write_eq text), ← funext (Logged.write_eq text)] at wrote
    exact wrote
  · have flushed := handedOn [] respects.flush
    simp only [List.append_nil] at flushed
    exact flushed

/-- How a template renders does not depend on the destination. -/
def Nesting.Natural (nesting : Nesting) : Prop :=
  ∀ {σ τ : Type} [Destination σ] [Destination τ] {c : Coupling σ τ}, ¬ c.lossy → c.Respects →
    ∀ name, Action.Follows c (nesting name σ) (nesting name τ)

theorem Catalog.nesting_natural (catalog : Catalog) (depth : Nat) :
    (catalog.nesting depth).Natural := by
  intro σ τ _ _ c lossless respects name
  exact .isolate (execute_follows catalog depth respects _ _ none
    (fun lossy => absurd lossy lossless) fun lossy => absurd lossy lossless)

namespace Frame

/-- The frame `g` after these texts: captured together, or else issued to the sink, of which `R`
says what was issued to it. -/
structure Landed (R : List String → σ → Prop) (g : Frame σ) (texts : List String) (f : Frame σ) :
    Prop where
  pass : f.pass = g.pass.takeAll texts
  cancelled : f.task.cancelled = g.task.cancelled
  sink : R (if g.pass.captures = [] then texts else []) f.task.sink

namespace Landed

variable {R : List String → σ → Prop} {g f : Frame σ} {texts : List String}

theorem refl (g : Frame σ) (here : R [] g.task.sink) : g.Landed R [] g :=
  ⟨rfl, rfl, by rwa [ite_self]⟩

theorem captures_eq_nil (landed : g.Landed R texts f) :
    f.pass.captures = [] ↔ g.pass.captures = [] := by
  rw [landed.pass]
  exact g.pass.takeAll_captures_eq_nil texts

theorem took_captured (landed : g.Landed R texts f) (text : String)
    (captured : f.pass.captures ≠ []) :
    g.Landed R (texts ++ [text]) (f.took text f.task.sink) := by
  have captured' : g.pass.captures ≠ [] := mt landed.captures_eq_nil.mpr captured
  refine ⟨?_, landed.cancelled, ?_⟩
  · rw [Pass.takeAll_append, ← landed.pass]
    rfl
  · have sink := landed.sink
    rw [if_neg captured'] at sink ⊢
    exact sink

theorem took_direct (landed : g.Landed R texts f) (text : String) (direct : f.pass.captures = [])
    (sink : σ) (issued : R (texts ++ [text]) sink) :
    g.Landed R (texts ++ [text]) (f.took text sink) := by
  have direct' : g.pass.captures = [] := landed.captures_eq_nil.mp direct
  refine ⟨?_, landed.cancelled, ?_⟩
  · rw [Pass.takeAll_append, ← landed.pass]
    rfl
  · rw [if_pos direct']
    exact issued

theorem sink_direct (landed : g.Landed R texts f) (direct : f.pass.captures = []) :
    R texts f.task.sink := by
  have sink := landed.sink
  rwa [if_pos (landed.captures_eq_nil.mp direct)] at sink

end Landed

/-- Every text that is issued to a frame lands in it, and nothing else. -/
theorem landed_kept [Destination σ] {R : List String → σ → Prop} (kept : Logged.Kept R)
    (g : Frame σ) : Logged.Kept (g.Landed R) where
  write texts f text landed := by
    by_cases direct : f.pass.captures = []
    · rw [write_direct f text direct]
      exact (kept.write texts _ text (landed.sink_direct direct)).recast fun sink issued =>
        landed.took_direct text direct sink issued
    · rw [write_captured f text direct]
      exact landed.took_captured text direct
  writeAsync texts f text landed := by
    by_cases direct : f.pass.captures = []
    · rw [writeAsync_direct f text direct]
      exact (kept.writeAsync texts _ text (landed.sink_direct direct)).recast fun sink issued =>
        landed.took_direct text direct sink issued
    · rw [writeAsync_captured f text direct]
      exact landed.took_captured text direct
  flush texts f landed := by
    by_cases direct : f.pass.captures = []
    · rw [flush_direct f direct]
      refine (kept.flush texts _ (landed.sink_direct direct)).recast fun sink issued => ?_
      refine ⟨landed.pass, landed.cancelled, ?_⟩
      rw [if_pos (landed.captures_eq_nil.mp direct)]
      exact issued
    · rw [flush_captured f direct]
      exact landed

/-- The frame `g` after these texts: captured together, or else issued to the sink. -/
structure Posted (g : Frame (Logged σ)) (texts : List String) (f : Frame (Logged σ)) : Prop where
  pass : f.pass = g.pass.takeAll texts
  cancelled : f.task.cancelled = g.task.cancelled
  log : f.task.sink.texts =
    g.task.sink.texts ++ if g.pass.captures = [] then texts else []

end Frame

/-- The log of a sink holds what was issued to it. -/
theorem Logged.log_kept [Destination σ] (log : List String) :
    Kept fun issued (l : Logged σ) => l.texts = log ++ issued where
  write issued l text same :=
    (write_visits text l).mono fun l' wrote => by rw [wrote, same, List.append_assoc]
  writeAsync issued l text same :=
    (writeAsync_visits text l).mono fun l' wrote => by rw [wrote, same, List.append_assoc]
  flush _ l same := (flush_visits l).mono fun _ kept => kept.trans same

namespace Call

variable [Destination σ]

/-- The texts that a call issues to its frame in a poll and `more` further ones. -/
def issued (nesting : Nesting) (call : Call) (more : Nat) (f : Frame σ) : List String :=
  let frame : Logged (Frame σ) := { sink := { f with pass := call.prepare f.pass } }
  ((call.output nesting f.pass frame).drive more).state.texts

/-- A call that writes goes on its frame as on a log around the frame, and what is logged lands in
the frame. -/
theorem perform_follows {nesting : Nesting} (natural : nesting.Natural)
    {R : List String → σ → Prop} (kept : Logged.Kept R) (call : Call) (f : Frame σ)
    (writing : call.writes = true) (here : R [] f.task.sink) :
    (call.perform nesting f).Follows
      (Logged.beside (Frame.Landed R { f with pass := call.prepare f.pass }))
      (call.output nesting f.pass { sink := { f with pass := call.prepare f.pass } }) := by
  let g : Frame σ := { f with pass := call.prepare f.pass }
  have respects : (Logged.beside (g.Landed R)).Respects :=
    Logged.beside_respects (g.landed_kept kept)
  have follows : Action.Follows (Logged.beside (g.Landed R)) (call.output nesting f.pass)
      (call.output nesting f.pass) :=
    .output respects (natural id respects) f.pass call
  rw [perform_output nesting call f writing]
  exact follows.run ⟨rfl, .refl g here⟩

/-- The texts that a call issues land in its frame, at every point. -/
theorem perform_landed {nesting : Nesting} (natural : nesting.Natural)
    {R : List String → σ → Prop} (kept : Logged.Kept R) (call : Call) (more : Nat) (f : Frame σ)
    (writing : call.writes = true) (here : R [] f.task.sink) :
    Frame.Landed R { f with pass := call.prepare f.pass } (call.issued nesting more f)
      ((call.perform nesting f).drive more).state :=
  ((call.perform_follows natural kept f writing here).drive id more).2.2

/-- A call that writes posts the texts that it issues, at every point. -/
theorem perform_posted {nesting : Nesting} (natural : nesting.Natural) (call : Call) (more : Nat)
    (f : Frame (Logged σ)) (writing : call.writes = true) :
    Frame.Posted { f with pass := call.prepare f.pass } (call.issued nesting more f)
      ((call.perform nesting f).drive more).state := by
  obtain ⟨pass, cancelled, log⟩ := call.perform_landed natural
    (Logged.log_kept f.task.sink.texts) more f writing (List.append_nil _).symm
  exact ⟨pass, cancelled, log⟩

/-- If the call succeeds, so it does on the log, and has posted all that was logged. -/
theorem returns_posted {nesting : Nesting} (natural : nesting.Natural) (call : Call)
    {f f' : Frame (Logged σ)} (writing : call.writes = true) {reply : Reply}
    (returned : (call.perform nesting f).Returns reply f') :
    ∃ l : Logged (Frame (Logged σ)),
      (call.output nesting f.pass { sink := { f with pass := call.prepare f.pass } }).Returns reply
        l ∧
      Frame.Posted { f with pass := call.prepare f.pass } l.texts f' := by
  obtain ⟨l, logged, -, pass, cancelled, log⟩ := (call.perform_follows natural
    (Logged.log_kept f.task.sink.texts) f writing (List.append_nil _).symm).returns returned
  exact ⟨l, logged, pass, cancelled, log⟩

end Call

end Templating
