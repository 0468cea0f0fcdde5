import Templating.Proofs.PassBooks

/-!
# What a pass did

A pass is a sequence of calls. A frame agrees with the books at every point that calls can reach
without a misuse (`Frame.Reached.balanced`): its captures hold what the books say, and what they
do not hold is in the sink.
-/

namespace Templating

variable {σ : Type}

/-- The call as it goes in this frame when it is polled `more` times again at most. -/
def Call.entry [Destination σ] (nesting : Nesting) (call : Call) (more : Nat) (f : Frame σ) :
    Entry where
  call
  texts := call.issued nesting more f
  outcome? := ((call.perform nesting f).drive more).outcome?

/-- The frames that a sequence of calls can reach without a misuse, with the calls that were made.
A call may fail, and it may be given up at any point where it waits. -/
inductive Frame.Reached [Destination σ] (nesting : Nesting) (start : Frame σ) :
    List Entry → Frame σ → Prop
  | start : Reached nesting start [] start
  | call {history : List Entry} {f : Frame σ} (before : Reached nesting start history f)
      (call : Call) (more : Nat) (calm : (call.entry nesting more f).panicked = false) :
      Reached nesting start (history ++ [call.entry nesting more f])
        ((call.perform nesting f).drive more).state

/-- A frame agrees with the books of its pass; `log` was issued to the sink before. -/
structure Books.Balanced (config : Config) (input? : Option LayoutInput) (log : List String) (b : Books)
    (f : Frame (Logged σ)) : Prop where
  pass : ∃ writer bodyRendered,
    f.pass = b.pass config writer (input?.map ({ · with bodyRendered }))
  log : f.task.sink.texts = log ++ b.direct
  sound : b.Sound

namespace Call

/-- The calls that open or close something in the pass. -/
def arranges : Call → Bool
  | setLayout _ | beginSection _ | endSection => true
  | _ => false

end Call

/-- Nothing was issued between the two frames, opened or closed. -/
def Frame.Unmoved (f f' : Frame σ) : Prop :=
  (∃ writer, f'.pass = { f.pass with writer }) ∧ f'.task.sink = f.task.sink

namespace Frame

theorem Unmoved.refl (f : Frame σ) : f.Unmoved f :=
  ⟨⟨f.pass.writer, rfl⟩, rfl⟩

theorem changeWriter_unmoved {f g : Frame σ} (unmoved : f.Unmoved g)
    (change : AttributeWriter → Except Misuse AttributeWriter) :
    (Frame.changeWriter change g).Visits f.Unmoved := by
  obtain ⟨⟨writer, pass⟩, sink⟩ := unmoved
  unfold Frame.changeWriter Frame.change
  cases h : change g.pass.writer with
  | ok changed =>
    simp only [h]
    exact ⟨⟨changed, by rw [pass]⟩, sink⟩
  | error m =>
    simp only [h]
    exact ⟨⟨writer, pass⟩, sink⟩

end Frame

theorem Value.resolve_stays (nesting : Nesting) (value : Value) (s : σ) :
    (value.resolve nesting s).Visits (· = s) := by
  have rendered : ∀ act : Action TextBuffer Unit, (Action.inMemory act s).Visits (· = s) :=
    fun act => .recast_const (Q := (· = s)) rfl (act {}) _
  cases value with
  | plain text? => rfl
  | safe text => rfl
  | encoded content => exact (rendered _).bind fun _ _ same => same
  | template name => exact (rendered _).bind fun _ _ same => same

/-- All other calls leave the captures, the sections and the sink alone. -/
theorem Call.perform_unmoved [Destination σ] (nesting : Nesting) (call : Call) (f : Frame σ)
    (silent : call.writes = false) (plain : call.arranges = false) :
    (call.perform nesting f).Visits f.Unmoved := by
  have here := Frame.Unmoved.refl f
  cases call with
  | beginAttribute head => exact (Frame.changeWriter_unmoved here _).bind fun _ _ done => done
  | attributeValue head value =>
    refine Run.Visits.bind ?_ fun _ _ done => done
    have resolved : (value.resolve nesting f).Visits f.Unmoved :=
      (value.resolve_stays nesting f).mono fun g same => by rw [same]; exact here
    exact resolved.bind fun value g unmoved => Frame.changeWriter_unmoved unmoved _
  | isSectionDefined name => exact here
  | encoding => exact here
  | config => exact here
  | cancel => exact here
  | isCancelled => exact here
  | ensureNotCancelled =>
    refine Run.Visits.bind ?_ fun _ _ done => done
    unfold Frame.ensureNotCancelled
    rw [Action.read_bind]
    split <;> exact here
  | fail error => exact here
  | wait polls =>
    refine Run.Visits.bind ?_ fun _ _ done => done
    clear silent plain
    induction polls with
    | zero => exact here
    | succ polls ih => exact ⟨here, ih⟩
  | stall => exact here
  | setLayout _ | beginSection _ | endSection => cases plain
  | _ => cases silent

theorem Call.issued_of_silent [Destination σ] (nesting : Nesting) (call : Call) (more : Nat)
    (f : Frame σ) (silent : call.writes = false) : call.issued nesting more f = [] := by
  cases call with
  | literal _ | literalAsync _ | write _ | templateAsync _ | flush | endAttribute | renderBody
  | renderSection _ | renderSectionOptional _ => cases silent
  | _ => rfl

theorem Frame.change_unit (change : Pass → Outcome Pass) (f : Frame σ) :
    (Frame.change change).unit f =
      match change f.pass with
      | .ok pass => .done (.ok .unit) { f with pass }
      | .failed e => .done (.failed e) f
      | .misused m => .done (.misused m) f
      | .tooDeep => .done .tooDeep f := by
  change Run.bind _ (Frame.change change f) = _
  unfold Frame.change
  cases change f.pass <;> rfl

theorem Frame.changeWriter_unit (change : AttributeWriter → Except Misuse AttributeWriter)
    (f : Frame σ) :
    (Frame.changeWriter change).unit f =
      match change f.pass.writer with
      | .ok writer => .done (.ok .unit) { f with pass := { f.pass with writer } }
      | .error m => .done (.misused m) f := by
  unfold Frame.changeWriter
  rw [Frame.change_unit]
  cases change f.pass.writer <;> rfl

theorem Call.endSection_unit [Destination σ] (nesting : Nesting) (f : Frame σ) :
    endSection.perform nesting f =
      .done (f.pass.endSection.1.map fun _ => .unit) { f with pass := f.pass.endSection.2 } := by
  show Run.bind _ (Run.done f.pass.endSection.1 { f with pass := f.pass.endSection.2 }) = _
  cases f.pass.endSection.1 <;> rfl

/-- A call that does not write leaves the sink alone. -/
theorem Call.perform_sink [Destination σ] (nesting : Nesting) (call : Call) (f : Frame σ)
    (silent : call.writes = false) :
    (call.perform nesting f).Visits fun f' => f'.task.sink = f.task.sink := by
  have changed : ∀ change : Pass → Outcome Pass,
      ((Frame.change change).unit f).Visits fun f' => f'.task.sink = f.task.sink := by
    intro change
    rw [Frame.change_unit]
    split <;> rfl
  cases arranges : call.arranges with
  | false => exact (call.perform_unmoved nesting f silent arranges).mono fun f' unmoved => unmoved.2
  | true =>
    cases call with
    | setLayout name => exact changed _
    | beginSection name => exact changed _
    | endSection =>
      refine Run.Visits.bind ?_ fun _ _ done => done
      rfl
    | _ => cases arranges

namespace Books.Balanced

variable {config : Config} {input? : Option LayoutInput} {log : List String} {b : Books}
  {g f : Frame (Logged σ)}

theorem start (config : Config) (input? : Option LayoutInput) (task : Task (Logged σ)) :
    ({} : Books).Balanced config input? task.sink.texts
      { pass := .start config input?, task } where
  pass := by
    cases input? with
    | none => exact ⟨_, false, rfl⟩
    | some input => exact ⟨_, input.bodyRendered, rfl⟩
  log := (List.append_nil _).symm
  sound := ⟨fun _ => rfl, fun chosen => absurd rfl chosen⟩

/-- Texts that were posted are booked. -/
theorem post (balanced : b.Balanced config input? log g) {texts : List String}
    (posted : g.Posted texts f) : (b.post texts).Balanced config input? log f := by
  obtain ⟨⟨writer, bodyRendered, pass⟩, logged, sound⟩ := balanced
  refine ⟨⟨writer, bodyRendered, ?_⟩, ?_, sound.post texts⟩
  · rw [posted.pass, pass, takeAll_pass]
  · rw [posted.log, logged, pass, List.append_assoc, ← direct_post]

theorem unmoved (balanced : b.Balanced config input? log g) (same : g.Unmoved f) :
    b.Balanced config input? log f := by
  obtain ⟨⟨writer, bodyRendered, pass⟩, logged, sound⟩ := balanced
  obtain ⟨⟨writer', moved⟩, sink⟩ := same
  refine ⟨⟨writer', bodyRendered, ?_⟩, sink ▸ logged, sound⟩
  rw [moved, pass]
  rfl

theorem prepare (balanced : b.Balanced config input? log f) (call : Call) :
    b.Balanced config input? log { f with pass := call.prepare f.pass } := by
  obtain ⟨⟨writer, bodyRendered, pass⟩, logged, sound⟩ := balanced
  cases call with
  | endAttribute =>
    refine ⟨⟨writer.close.2, bodyRendered, ?_⟩, logged, sound⟩
    simp only [Call.prepare, pass]
    rfl
  | renderBody =>
    refine ⟨⟨writer, true, ?_⟩, logged, sound⟩
    simp only [Call.prepare, pass]
    cases input? <;> rfl
  | _ => exact ⟨⟨writer, bodyRendered, pass⟩, logged, sound⟩

/-- What a call that opens or closes something comes to: it is marked, or it fails and changes
nothing. -/
def Arranged (config : Config) (input? : Option LayoutInput) (log : List String) (b : Books)
    (call : Call) (d : Driven (Frame (Logged σ)) Reply) : Prop :=
  (d.outcome? = some (.ok .unit) ∧ (b.mark call).Balanced config input? log d.state) ∨
    (∃ o : Outcome Reply, o.isOk = false ∧ d.outcome? = some o) ∧
      b.Balanced config input? log d.state

theorem change_arranged (balanced : b.Balanced config input? log f) (call : Call) (more : Nat)
    (change : Pass → Outcome Pass)
    (changed : ∀ writer input? p, change (b.pass config writer input?) = .ok p →
      p = (b.mark call).pass config writer input? ∧ (b.mark call).Sound ∧
        (b.mark call).direct = b.direct)
    (calm : ∀ m, (((Frame.change change).unit f).drive more).outcome? ≠ some (.misused m)) :
    Arranged config input? log b call (((Frame.change change).unit f).drive more) := by
  rw [Frame.change_unit] at calm ⊢
  cases answer : change f.pass with
  | ok p =>
    obtain ⟨⟨writer, bodyRendered, pass⟩, logged, sound⟩ := balanced
    rw [pass] at answer
    obtain ⟨rfl, marked, direct⟩ := changed _ _ _ answer
    exact .inl ⟨rfl, ⟨writer, bodyRendered, rfl⟩, direct ▸ logged, marked⟩
  | failed e => exact .inr ⟨⟨.failed e, rfl, rfl⟩, balanced⟩
  | misused m =>
    simp only [answer] at calm
    exact absurd rfl (calm m)
  | tooDeep => exact .inr ⟨⟨.tooDeep, rfl, rfl⟩, balanced⟩

theorem arranged [Destination σ] {nesting : Nesting} (balanced : b.Balanced config input? log f)
    (call : Call) (more : Nat) (arranges : call.arranges = true)
    (calm : ∀ m, ((call.perform nesting f).drive more).outcome? ≠ some (.misused m)) :
    Arranged config input? log b call ((call.perform nesting f).drive more) := by
  have sound := balanced.sound
  cases call with
  | setLayout name =>
    refine balanced.change_arranged (.setLayout name) more _ ?_ calm
    intro writer input? p chosen
    have layout : (b.pass config writer input?).setLayout name = .ok p := by
      cases answer : (b.pass config writer input?).setLayout name with
      | ok p' => simpa [answer] using chosen
      | error e => simp [answer] at chosen
    obtain ⟨rfl, marked⟩ := setLayout_pass sound layout
    exact ⟨rfl, marked, rfl⟩
  | beginSection name =>
    refine balanced.change_arranged (.beginSection name) more _ ?_ calm
    intro writer input? p begun
    obtain rfl := beginSection_pass begun
    exact ⟨rfl, ⟨sound.undivided, sound.quiet⟩, rfl⟩
  | endSection =>
    obtain ⟨⟨writer, bodyRendered, pass⟩, logged, -⟩ := balanced
    rw [Call.endSection_unit] at calm ⊢
    cases ended : f.pass.endSection with
    | mk o p =>
      rw [ended] at calm
      rw [pass] at ended
      rcases endSection_pass ended with ⟨m, rfl⟩ | ⟨rfl, rfl⟩
      · exact absurd rfl (calm m)
      · exact .inl ⟨rfl, ⟨writer, bodyRendered, rfl⟩, logged, sound.undivided, sound.quiet⟩
  | _ => cases arranges

/-- What a call did is what the books record of it. -/
theorem record [Destination σ] {nesting : Nesting} (natural : nesting.Natural)
    (balanced : b.Balanced config input? log f) (call : Call) (more : Nat)
    (calm : (call.entry nesting more f).panicked = false) :
    (b.record (call.entry nesting more f)).Balanced config input? log
      ((call.perform nesting f).drive more).state := by
  by_cases writing : call.writes = true
  · have unmarked : b.mark call = b := by
      cases call with
      | setLayout _ | beginSection _ | endSection => cases writing
      | _ => rfl
    have booked : b.record (call.entry nesting more f) = b.post (call.issued nesting more f) := by
      simp [Books.record, Call.entry, unmarked]
    rw [booked]
    exact (balanced.prepare call).post (call.perform_posted natural more f writing)
  · have silent : call.writes = false := by simpa using writing
    have booked : b.record (call.entry nesting more f) =
        if (call.entry nesting more f).succeeded then b.mark call else b := by
      simp [Books.record, Call.entry, Call.issued_of_silent nesting call more f silent]
    rw [booked]
    by_cases arranges : call.arranges = true
    · have misses : ∀ m,
          ((call.perform nesting f).drive more).outcome? ≠ some (.misused m) := by
        intro m misused
        simp [Call.entry, Entry.panicked, misused] at calm
      rcases balanced.arranged call more arranges misses with
        ⟨succeeds, marked⟩ | ⟨⟨o, halted, ends⟩, kept⟩
      · rw [if_pos (by simp [Call.entry, Entry.succeeded, succeeds, Outcome.isOk])]
        exact marked
      · rw [if_neg (by simp [Call.entry, Entry.succeeded, ends, halted])]
        exact kept
    · have plain : call.arranges = false := by simpa using arranges
      have unmarked : b.mark call = b := by
        cases call with
        | setLayout _ | beginSection _ | endSection => cases plain
        | _ => rfl
      rw [unmarked, ite_self]
      exact balanced.unmoved ((call.perform_unmoved nesting f silent plain).drive more)

end Books.Balanced

/-- A log makes no difference: what a pass does to any sink it does to the same sink with a log. -/
theorem Frame.Reached.logged [Destination σ] {nesting : Nesting} (natural : nesting.Natural)
    {pass : Pass} {task : Task σ} {history : List Entry} {f : Frame σ}
    (reached : Frame.Reached nesting { pass, task } history f) :
    ∃ l : Frame (Logged σ),
      Frame.Reached nesting
        { pass, task := { cancelled := task.cancelled, sink := { sink := task.sink } } } history l ∧
      l.pass = f.pass ∧ l.task.cancelled = f.task.cancelled ∧ l.task.sink.sink = f.task.sink := by
  let c : Coupling σ (Logged σ) := Logged.beside fun _ _ => True
  have respects : c.Respects := Logged.beside_any_respects
  induction reached with
  | start => exact ⟨_, .start, rfl, rfl, rfl⟩
  | @call history f before call more calm ih =>
    obtain ⟨l, reached, samePass, sameCancelled, sameSink⟩ := ih
    have here : c.frame.now f l := ⟨samePass.symm, sameCancelled.symm, sameSink, trivial⟩
    have performs : Action.Follows c.frame (call.perform nesting) (call.perform nesting) :=
      .perform respects (natural id respects.frame) call
    obtain ⟨outcome, state⟩ := (performs.run here).drive id more
    have issues : Action.Follows c.frame.logged (call.output nesting f.pass)
        (call.output nesting f.pass) :=
      .output respects.frame.logged (natural id respects.frame.logged) f.pass call
    have prepared : c.frame.logged.now { sink := { f with pass := call.prepare f.pass } }
        { sink := { l with pass := call.prepare l.pass } } :=
      ⟨rfl, congrArg call.prepare here.1, here.2⟩
    have texts := ((issues.run prepared).drive id more).2.1
    rw [samePass] at texts
    have same : call.entry nesting more f = call.entry nesting more l := by
      simp only [Call.entry, Call.issued, outcome, samePass, texts]
    rw [same] at calm ⊢
    exact ⟨_, reached.call call more calm, state.1.symm, state.2.1.symm, state.2.2.1⟩

/-- At every point of a pass the frame agrees with the books. -/
theorem Frame.Reached.balanced [Destination σ] {nesting : Nesting} (natural : nesting.Natural)
    {config : Config} {input? : Option LayoutInput} {task : Task (Logged σ)}
    {history : List Entry} {f : Frame (Logged σ)}
    (reached : Frame.Reached nesting { pass := .start config input?, task } history f) :
    (Books.ofHistory history).Balanced config input? task.sink.texts f := by
  induction reached with
  | start => exact .start config input? task
  | call before call more calm ih =>
    have recorded := ih.record natural call more calm
    rw [Books.ofHistory, List.foldl_append]
    exact recorded

/-- At every point of a pass that calls reach without a misuse: there is at most one open section,
above the capture of the body if there is one, and the body is captured exactly if a layout was
chosen. Captures, sections and sink hold what the books say. What any further call issues goes to
the innermost capture or else to the sink, in order and once, as far as the call comes. Of a pass
that chose a layout nothing but empty texts ever is in the sink. -/
theorem Frame.Reached.accounted [Destination σ] (catalog : Catalog) (depth : Nat)
    {config : Config} {input? : Option LayoutInput} {task : Task (Logged σ)}
    {history : List Entry} {f : Frame (Logged σ)}
    (reached : Frame.Reached (catalog.nesting depth) { pass := .start config input?, task }
      history f) :
    let books := Books.ofHistory history
    let chosen := history.filterMap Entry.layout?
    let kinds := f.pass.captures.map Capture.kind
    (kinds = [] ∨ kinds = [.body] ∨ (∃ name, kinds = [.section name]) ∨
      ∃ name, kinds = [.section name, .body]) ∧
    (.body ∈ kinds ↔ chosen ≠ []) ∧
    f.pass.layout? = chosen.getLast? ∧
    f.pass.captures = books.captures ∧
    f.pass.sections = books.closed ∧
    f.task.sink.texts = task.sink.texts ++ books.direct ∧
    (∀ (call : Call) (more : Nat), call.writes = true →
      Frame.Posted { f with pass := call.prepare f.pass }
        (call.issued (catalog.nesting depth) more f)
        ((call.perform (catalog.nesting depth) f).drive more).state) ∧
    (chosen ≠ [] → ∀ text ∈ books.direct, text = "") := by
  intro books chosen kinds
  have natural : (catalog.nesting depth).Natural := catalog.nesting_natural depth
  obtain ⟨⟨writer, bodyRendered, pass⟩, logged, sound⟩ := reached.balanced natural
  have layout : books.layout? = chosen.getLast? := Books.ofHistory_layout? history
  have chose : books.layout? = none ↔ chosen = [] := by
    rw [layout, List.getLast?_eq_none_iff]
  have stack : kinds = books.captures.map Capture.kind := by
    simp only [kinds, pass, Books.pass]
    rfl
  refine ⟨?_, ?_, by rw [pass]; exact layout, by rw [pass]; rfl, by rw [pass]; rfl, logged,
    fun call more => call.perform_posted natural more f, fun some => sound.quiet (mt chose.mp some)⟩
  · rw [stack, Books.captures]
    cases books.opened? with
    | none =>
      by_cases unchosen : books.layout? = none
      · exact .inl (by simp [unchosen])
      · exact .inr (.inl (by simp [unchosen]))
    | some s =>
      by_cases unchosen : books.layout? = none
      · exact .inr (.inr (.inl ⟨s.1, by simp [unchosen]⟩))
      · exact .inr (.inr (.inr ⟨s.1, by simp [unchosen]⟩))
  · rw [stack, Books.captures, Ne, ← chose]
    cases books.opened? <;> by_cases unchosen : books.layout? = none <;> simp [unchosen]

/-- A layout is chosen while a section is open, and text is written there. -/
theorem Frame.Reached.accounted_layoutInSection :
    let nesting := Catalog.nesting (fun _ => { body := { name := "", steps := [] } }) 0
    let start : Frame (Logged TextBuffer) :=
      { pass := .start {} none, task := { sink := { sink := {} } } }
    ∃ history f, Frame.Reached nesting start history f ∧
      f.pass.captures = [{ kind := .section "menu", text := "x" }, { kind := .body }] ∧
      (.body ∈ f.pass.captures.map Capture.kind ↔ history.filterMap Entry.layout? ≠ []) ∧
      f.task.sink.texts = (Books.ofHistory history).direct ∧
      ∀ text ∈ (Books.ofHistory history).direct, text = "" := by
  intro nesting start
  have begun : Frame.Reached nesting start [] start := .start
  have reached := ((begun.call (.beginSection "menu") 0 rfl).call (.setLayout "outer") 0 rfl).call
    (.literal "x") 0 rfl
  obtain ⟨-, captured, -, -, -, logged, -, quiet⟩ := reached.accounted
  exact ⟨_, _, reached, rfl, captured, logged, quiet (by decide)⟩

end Templating
