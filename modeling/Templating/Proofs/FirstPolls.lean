import Templating.Proofs.CaughtErrors
import Templating.Proofs.Parametricity

/-!
# First polls

A template that is written in place is polled once. If it is through by then, writing it is
rendering it and waiting for it; else it is given up where it waits, and what it did so far stays
(`Call.write_template_firstPoll`). Where an execution waits in its first poll is told by
`Catalog.Suspends`: at a call of its own, in the sink, inside a template that it waits for, or in a
later pass.
-/

namespace Templating

variable {σ τ α β : Type}

namespace Run

/-- The run waits in its first poll. -/
def Suspends (r : Run σ α) : Prop :=
  (r.drive 0).outcome? = none

/-- What the first poll alone shows, however often it is polled. -/
theorem drive_firstPoll (r : Run σ α) (more : Nat) :
    r.firstPoll.drive more =
      { r.drive 0 with
        outcome? := some ((r.drive 0).outcome?.getD (.failed .nestedSuspended)) } := by
  induction r with
  | done o s => rfl
  | note e rest ih => simp only [firstPoll, drive, ih]
  | pause s rest ih => rfl
  | stalled s => rfl

/-- What goes on after the first poll goes on from where that left, within the same poll. -/
theorem drive_firstPoll_bind (r : Run σ α) (k : Outcome α → σ → Run σ β) (more : Nat) :
    let first := r.drive 0
    let later := (k (first.outcome?.getD (.failed .nestedSuspended)) first.state).drive more
    ((r.firstPoll.recast id fun o _ => .ok o).bind k).drive more =
      { later with events := first.events ++ later.events } := by
  induction r with
  | done o s => rfl
  | note e rest ih =>
    intro first later
    simp only [firstPoll, recast, bind, drive]
    rw [ih]
    rfl
  | pause s rest ih => rfl
  | stalled s => rfl

theorem firstPoll_bind (r : Run σ α) {k : α → σ → Run σ β}
    (unwaiting : ∀ a s, (k a s).pauses = []) : (r.bind k).firstPoll = r.firstPoll.bind k := by
  induction r with
  | done o s =>
    cases o with
    | ok a => exact firstPoll_eq_self (unwaiting a s)
    | failed e => rfl
    | misused m => rfl
    | tooDeep => rfl
  | note e rest ih => exact congrArg (note e) ih
  | pause s rest ih => rfl
  | stalled s => rfl

theorem not_suspends {r : Run σ α} (unwaiting : r.pauses = []) : ¬ r.Suspends := by
  rw [Suspends, drive_eq_await unwaiting]
  exact await_ends unwaiting

theorem suspends_recast_iff (r : Run σ α) (project : σ → τ)
    (conclude : Outcome α → σ → Outcome β) :
    (r.recast project conclude).Suspends ↔ r.Suspends := by
  rw [Suspends, drive_recast]
  exact Option.map_eq_none_iff

/-- A run that goes on after a value waits before it has the value, or after that. -/
theorem suspends_bind_iff (r : Run σ α) (k : α → σ → Run σ β) :
    (r.bind k).Suspends ↔ r.Suspends ∨
      ∃ a, (r.drive 0).outcome? = some (.ok a) ∧ (k a (r.drive 0).state).Suspends := by
  induction r with
  | done o s =>
    cases o with
    | ok a => simp [bind, Suspends, drive]
    | failed e => simp [bind, Suspends, drive]
    | misused m => simp [bind, Suspends, drive]
    | tooDeep => simp [bind, Suspends, drive]
  | note e rest ih => exact ih
  | pause s rest ih => exact iff_of_true rfl (.inl rfl)
  | stalled s => exact iff_of_true rfl (.inl rfl)

theorem suspends_bind_of_unwaiting (r : Run σ α) {k : α → σ → Run σ β}
    (unwaiting : ∀ a s, (k a s).pauses = []) : (r.bind k).Suspends ↔ r.Suspends := by
  rw [suspends_bind_iff]
  refine ⟨fun waits => waits.elim id ?_, .inl⟩
  rintro ⟨a, -, later⟩
  exact absurd later (not_suspends (unwaiting a _))

end Run

/-- Only these calls may wait: a body that makes none of them does not. -/
def Call.mayWait : Call → Bool
  | .literalAsync _ | .templateAsync _ | .flush | .wait _ | .stall => true
  | _ => false

/-- The call waits in this frame by itself, or for the sink. Captured text does not reach the
sink. -/
inductive Call.WaitsAt [Destination σ] : Call → Frame σ → Prop
  | wait (polls : Nat) (f : Frame σ) : WaitsAt (.wait (polls + 1)) f
  | stall (f : Frame σ) : WaitsAt .stall f
  | literalAsync {text : String} {f : Frame σ} (present : text ≠ "")
      (direct : f.pass.captures = []) (sink : (Action.writeAsync text f.task.sink).Suspends) :
      WaitsAt (.literalAsync text) f
  | flush {f : Frame σ} (direct : f.pass.captures = [])
      (sink : (Action.flush f.task.sink : Run σ Unit).Suspends) : WaitsAt .flush f

/-- In their first poll the steps come to this step in this frame, and make its call. -/
inductive Step.Comes [Destination σ] (nesting : Nesting) :
    List Step → Frame σ → Step → Frame σ → Prop
  | here {step : Step} {f : Frame σ} (rest : List Step)
      (needed : step.isSkipped f.pass = false) : Comes nesting (step :: rest) f step f
  | skip {step next : Step} {rest : List Step} {f g : Frame σ}
      (skipped : step.isSkipped f.pass = true) (later : Comes nesting rest f next g) :
      Comes nesting (step :: rest) f next g
  | call {step next : Step} {rest : List Step} {f g : Frame σ}
      (needed : step.isSkipped f.pass = false)
      (goesOn : step.goesOn ((step.call.perform nesting f).drive 0).outcome? = true)
      (later : Comes nesting rest ((step.call.perform nesting f).drive 0).state next g) :
      Comes nesting (step :: rest) f next g

/-- The first poll of an execution comes to a call that waits, to a template that waits inside, or
to a later pass that does. -/
inductive Catalog.Suspends (catalog : Catalog) : {σ : Type} → [Destination σ] →
    (depth : Nat) → Config → Body → Option LayoutInput → Task σ → Prop
  | here {σ : Type} [Destination σ] {depth : Nat} {config : Config} {body : Body}
      {input? : Option LayoutInput} {task : Task σ} {step : Step} {f : Frame σ}
      (comes : Step.Comes (catalog.nesting depth) body.steps
        { pass := .start config input?, task } step f)
      (waits : step.call.WaitsAt f) : Suspends catalog (depth + 1) config body input? task
  | nested {σ : Type} [Destination σ] {depth : Nat} {config : Config} {body : Body}
      {input? : Option LayoutInput} {task : Task σ} {step : Step} {f : Frame σ} {name : String}
      (comes : Step.Comes (catalog.nesting depth) body.steps
        { pass := .start config input?, task } step f)
      (awaits : step.call = .templateAsync name)
      (inner : Suspends catalog depth (catalog name).config (catalog name).body none
        { sink := f }) :
      Suspends catalog (depth + 1) config body input? task
  | layout {σ : Type} [Destination σ] {depth : Nat} {config : Config} {body : Body}
      {input? : Option LayoutInput} {task : Task σ} {next : LayoutCall}
      (passed :
        ((catalog.pass depth body { pass := .start config input?, task }).drive 0).outcome? =
          some (.ok (some next)))
      (outer : Suspends catalog depth config (catalog next.layout).body (some next.input)
        ((catalog.pass depth body { pass := .start config input?, task }).drive 0).state.task) :
      Suspends catalog (depth + 1) config body input? task

variable [Destination σ]

namespace Frame

theorem writeAsync_suspends_iff (f : Frame σ) (text : String) :
    (Action.writeAsync text f).Suspends ↔
      f.pass.captures = [] ∧ (Action.writeAsync text f.task.sink).Suspends := by
  by_cases direct : f.pass.captures = []
  · rw [writeAsync_direct f text direct, Run.suspends_recast_iff]
    exact (and_iff_right direct).symm
  · rw [writeAsync_captured f text direct]
    exact iff_of_false nofun fun both => direct both.1

theorem flush_suspends_iff (f : Frame σ) :
    (Action.flush f : Run (Frame σ) Unit).Suspends ↔
      f.pass.captures = [] ∧ (Action.flush f.task.sink : Run σ Unit).Suspends := by
  by_cases direct : f.pass.captures = []
  · rw [flush_direct f direct, Run.suspends_recast_iff]
    exact (and_iff_right direct).symm
  · rw [flush_captured f direct]
    exact iff_of_false nofun fun both => direct both.1

end Frame

omit [Destination σ] in
theorem Value.resolve_pauses (nesting : Nesting) (value : Value) (f : Frame σ) :
    (value.resolve nesting f).pauses = [] := by
  have rendered : ∀ act : Action TextBuffer Unit, (act {}).pauses = [] →
      ((Action.inMemory act f).bind fun text f => .done (.ok (MarkedText.raw text)) f).pauses =
        [] := fun act unwaiting =>
    Run.pauses_bind ((Run.pauses_recast _ _ _).trans (List.map_eq_nil_iff.mpr unwaiting))
      fun _ _ => rfl
  cases value with
  | plain text? => rfl
  | safe text => rfl
  | encoded content => exact rendered _ (content.write_pauses nesting {})
  | template name => exact rendered _ (Run.pauses_firstPoll _)

namespace Call

/-- Leaving out the calls that may wait, no call waits. -/
theorem perform_pauses (nesting : Nesting) {call : Call} (unwaiting : call.mayWait = false)
    (f : Frame σ) : (call.perform nesting f).pauses = [] := by
  let quiet : (α : Type) → Action (Frame σ) α → Action (Frame σ) α → Prop :=
    fun _ act _ => ∀ f, (act f).pauses = []
  have composes : Action.Compositional quiet :=
    ⟨fun _ _ _ => rfl, fun _ _ => rfl, fun first later f => Run.pauses_bind (first f) later⟩
  have writes : ∀ text, quiet Unit (Action.write text) (Action.write text) := by
    intro text f
    unfold Action.write Action.ofStep
    split <;> rfl
  have renders : ∀ name, quiet Unit (nesting.renderNow name) (nesting.renderNow name) :=
    fun name f => Run.pauses_firstPoll _
  have changes : ∀ (change : Pass → Outcome Pass) (f : Frame σ),
      (Frame.change change f).pauses = [] := by
    intro change f
    unfold Frame.change
    split <;> rfl
  have replies : ∀ act : Action (Frame σ) Unit, (act f).pauses = [] → (act.unit f).pauses = [] :=
    fun act silent => Run.pauses_bind silent fun _ _ => rfl
  by_cases writing : call.writes = true
  · rw [call.perform_output nesting f writing]
    cases call with
    | write v =>
      have written := composes.value writes nesting nesting renders f.pass.config.encoding v
      exact Run.pauses_bind (written _) fun _ _ => rfl
    | literalAsync _ | templateAsync _ | flush => cases unwaiting
    | _ => exact composes.output_of_writesTexts writes nesting nesting f.pass rfl _
  · cases call with
    | beginAttribute head => exact replies _ (changes _ f)
    | attributeValue head value =>
      exact replies _ (Run.pauses_bind (value.resolve_pauses nesting f) fun m g => changes _ g)
    | setLayout name => exact replies _ (changes _ f)
    | beginSection name => exact replies _ (changes _ f)
    | endSection => exact replies _ rfl
    | ensureNotCancelled =>
      refine replies _ ?_
      unfold Frame.ensureNotCancelled
      rw [Action.read_bind]
      split <;> rfl
    | isSectionDefined _ | encoding | config | cancel | isCancelled | fail _ => rfl
    | wait _ | stall => cases unwaiting
    | _ => exact absurd rfl writing

theorem WaitsAt.mayWait {call : Call} {f : Frame σ} (waits : call.WaitsAt f) :
    call.mayWait = true := by
  cases waits <;> rfl

/-- A call waits in its first poll by itself, for the sink, or for a template. -/
theorem perform_suspends_iff (nesting : Nesting) (call : Call) (f : Frame σ) :
    (call.perform nesting f).Suspends ↔ call.WaitsAt f ∨
      ∃ name, call = .templateAsync name ∧ (nesting name (Frame σ) f).Suspends := by
  have replied : ∀ act : Action (Frame σ) Unit, (act.unit f).Suspends ↔ (act f).Suspends :=
    fun act => Run.suspends_bind_of_unwaiting _ fun _ _ => rfl
  cases call with
  | literalAsync text =>
    have written : ((literalAsync text).perform nesting f).Suspends ↔
        text ≠ "" ∧ (Action.writeAsync text f).Suspends := by
      refine (replied _).trans ?_
      by_cases empty : text = ""
      · subst empty
        exact iff_of_false nofun fun both => both.1 rfl
      · have present : text.isEmpty = false := by simpa using empty
        simp [Frame.literalAsync, present, empty]
    rw [written, f.writeAsync_suspends_iff]
    constructor
    · exact fun ⟨present, direct, sink⟩ => .inl (.literalAsync present direct sink)
    · rintro (own | ⟨_, ⟨⟩, _⟩)
      cases own with
      | literalAsync present direct sink => exact ⟨present, direct, sink⟩
  | templateAsync name =>
    refine (replied _).trans ⟨fun waits => .inr ⟨name, rfl, waits⟩, ?_⟩
    rintro (own | ⟨_, ⟨⟩, waits⟩)
    · cases own
    · exact waits
  | flush =>
    refine ((replied _).trans f.flush_suspends_iff).trans
      ⟨fun both => .inl (.flush both.1 both.2), ?_⟩
    rintro (own | ⟨_, ⟨⟩, _⟩)
    cases own with
    | flush direct sink => exact ⟨direct, sink⟩
  | wait polls =>
    refine (replied _).trans ?_
    cases polls with
    | zero =>
      refine iff_of_false nofun ?_
      rintro (own | ⟨_, ⟨⟩, _⟩)
      cases own
    | succ polls => exact iff_of_true rfl (.inl (.wait polls f))
  | stall => exact iff_of_true rfl (.inl (.stall f))
  | _ =>
    refine iff_of_false (Run.not_suspends (perform_pauses nesting rfl f)) ?_
    rintro (own | ⟨_, ⟨⟩, _⟩)
    cases own.mayWait

end Call

/-- A body waits in its first poll where it has come to a call that waits. -/
theorem Step.runAll_suspends_iff (nesting : Nesting) (template : String) (position : Nat)
    (steps : List Step) (f : Frame σ) :
    (Step.runAll nesting template position steps f).Suspends ↔
      ∃ step g, Step.Comes nesting steps f step g ∧ (step.call.perform nesting g).Suspends := by
  induction steps generalizing position f with
  | nil => exact iff_of_false nofun fun ⟨_, _, comes, _⟩ => nomatch comes
  | cons step rest ih =>
    refine (Run.suspends_bind_iff (step.run nesting template position f)
      fun _ f => Step.runAll nesting template (position + 1) rest f).trans ?_
    cases skipped : step.isSkipped f.pass with
    | true =>
      rw [step.run_skipped template position f skipped]
      constructor
      · rintro (itself | ⟨_, -, later⟩)
        · cases itself
        · obtain ⟨next, g, comes, waits⟩ := (ih (position + 1) f).mp later
          exact ⟨next, g, .skip skipped comes, waits⟩
      · rintro ⟨next, g, comes, waits⟩
        cases comes with
        | here _ needed => cases skipped.symm.trans needed
        | call needed => cases skipped.symm.trans needed
        | skip _ later => exact .inr ⟨(), rfl, (ih (position + 1) f).mpr ⟨next, g, later, waits⟩⟩
    | false =>
      obtain ⟨left, -, -, goes⟩ := step.drive_run nesting template position f 0 skipped
      have itself : (step.run nesting template position f).Suspends ↔
          (step.call.perform nesting f).Suspends := by
        rw [step.run_needed nesting template position f skipped,
          Run.suspends_bind_of_unwaiting _ (step.after_pauses template position),
          Run.suspends_recast_iff]
      rw [itself]
      constructor
      · rintro (waits | ⟨_, value, later⟩)
        · exact ⟨step, f, .here rest skipped, waits⟩
        · rw [left] at later
          obtain ⟨next, g, comes, waits⟩ := (ih (position + 1) _).mp later
          exact ⟨next, g, .call skipped (goes.mp value) comes, waits⟩
      · rintro ⟨next, g, comes, waits⟩
        cases comes with
        | here => exact .inl waits
        | skip needed => cases skipped.symm.trans needed
        | call _ goesOn later =>
          refine .inr ⟨(), goes.mpr goesOn, ?_⟩
          rw [left]
          exact (ih (position + 1) _).mpr ⟨next, g, later, waits⟩

namespace Catalog

variable (catalog : Catalog)

/-- Where an execution waits in its first poll. -/
theorem execute_suspends_iff (depth : Nat) (config : Config) (body : Body)
    (input? : Option LayoutInput) (task : Task σ) :
    (execute catalog depth config body input? task).Suspends ↔
      catalog.Suspends depth config body input? task := by
  induction depth generalizing σ config body input? with
  | zero => exact iff_of_false nofun (by rintro ⟨⟩)
  | succ depth ih =>
    let start : Frame σ := { pass := .start config input?, task }
    have nested : ∀ (name : String) (f : Frame σ),
        (catalog.nesting depth name (Frame σ) f).Suspends ↔
          catalog.Suspends depth (catalog name).config (catalog name).body none { sink := f } :=
      fun name f => (Run.suspends_recast_iff _ _ _).trans (ih _ _ none { sink := f })
    have pass : (catalog.pass depth body start).Suspends ↔
        ∃ step f, Step.Comes (catalog.nesting depth) body.steps start step f ∧
          (step.call.WaitsAt f ∨ ∃ name, step.call = .templateAsync name ∧
            catalog.Suspends depth (catalog name).config (catalog name).body none
              { sink := f }) := by
      refine (Run.suspends_bind_of_unwaiting _ fun _ g => ?_).trans
        ((Step.runAll_suspends_iff _ _ _ _ _).trans ?_)
      · unfold Frame.finish
        rw [Action.read_bind]
        cases g.pass.unfinished? with
        | some reason => rfl
        | none =>
          dsimp only
          split <;> rfl
      · simp only [Call.perform_suspends_iff, nested]
    rw [execute_succ]
    refine (Run.suspends_bind_iff _ _).trans ?_
    rw [Task.enter, Run.suspends_recast_iff, pass, Run.drive_recast]
    constructor
    · rintro (⟨step, f, comes, waits | ⟨name, awaits, inner⟩⟩ | ⟨next?, passed, later⟩)
      · exact .here comes waits
      · exact .nested comes awaits inner
      · have passed : ((catalog.pass depth body start).drive 0).outcome? = some (.ok next?) := by
          simpa using passed
        cases next? with
        | none => cases later
        | some next => exact .layout passed ((ih _ _ _ _).mp later)
    · intro waits
      cases waits with
      | here comes waits => exact .inl ⟨_, _, comes, .inl waits⟩
      | nested comes awaits inner => exact .inl ⟨_, _, comes, .inr ⟨_, awaits, inner⟩⟩
      | @layout _ _ _ _ _ _ _ next passed outer =>
        exact .inr ⟨some next, by simpa using passed, (ih _ _ _ _).mpr outer⟩

end Catalog

namespace Call

/-- Let a template be written in place, as a value or as content. If waiting for it would be over
in the first poll, writing it shows the same, within any poll. If not, it fails as suspended, and
leaves what the first poll left. In both cases what goes on after it goes on from there, and nothing
more of the template is run. Waiting for the template takes more than one poll exactly if its
execution comes to a call that waits, by itself or for its sink, or to a template or a later pass
that waits. -/
theorem write_template_firstPoll (catalog : Catalog) (depth : Nat) (name : String) (f : Frame σ)
    {v : Value} (renders : v = .template name ∨ v = .encoded (.template name)) :
    let nesting := catalog.nesting depth
    let template := catalog name
    let first := ((templateAsync name).perform nesting f).drive 0
    let ended := first.outcome?.getD (.failed .nestedSuspended)
    (first.outcome? ≠ none → ∀ more, ((write v).perform nesting f).drive more = first) ∧
    (first.outcome? = none → ∀ more, ((write v).perform nesting f).drive more =
      { first with outcome? := some (.failed .nestedSuspended) }) ∧
    (∀ {α : Type} (next : Outcome Reply → Action (Frame σ) α) (more : Nat),
      let whole : Action (Frame σ) α := ((write v).perform nesting).attempt >>= next
      let later := (next ended first.state).drive more
      (whole f).drive more = { later with events := first.events ++ later.events }) ∧
    (first.outcome? = none ↔
      catalog.Suspends depth template.config template.body none { sink := f }) := by
  intro nesting template first ended
  have written : (write v).perform nesting f =
      ((templateAsync name).perform nesting f).firstPoll := by
    have polled : ((templateAsync name).perform nesting f).firstPoll = _ :=
      Run.firstPoll_bind (nesting name (Frame σ) f) (k := fun _ f => .done (.ok Reply.unit) f)
        fun _ _ => rfl
    rcases renders with rfl | rfl <;> exact polled.symm
  have shown : ∀ more, ((write v).perform nesting f).drive more =
      { first with outcome? := some ended } := by
    intro more
    rw [written]
    exact Run.drive_firstPoll _ more
  refine ⟨fun through more => ?_, fun waits more => ?_, fun next more => ?_, ?_⟩
  · obtain ⟨o, outcome⟩ := Option.ne_none_iff_exists'.mp through
    rw [shown more]
    unfold ended
    rw [outcome, Option.getD_some, ← outcome]
  · rw [shown more]
    unfold ended
    rw [waits, Option.getD_none]
  · refine Eq.trans ?_ (Run.drive_firstPoll_bind ((templateAsync name).perform nesting f) next more)
    rw [← written]
    rfl
  · rw [← catalog.execute_suspends_iff]
    refine (perform_suspends_iff nesting (templateAsync name) f).trans ⟨?_, fun waits => ?_⟩
    · rintro (own | ⟨_, ⟨⟩, waits⟩)
      · cases own
      · exact (Run.suspends_recast_iff _ _ _).mp waits
    · exact .inr ⟨name, rfl, (Run.suspends_recast_iff _ _ _).mpr waits⟩

/-- A template that never waits, one that waits for another one, and one that flushes. -/
def letterSite : Catalog
  | "name" => { body := { name := "name", steps := [{ call := .literal "n" }] } }
  | "date" => { body := { name := "date", steps := [{ call := .literal "d" },
      { call := .wait 1 }, { call := .literal "e" }] } }
  | "head" => { body := { name := "head", steps := [{ call := .literal "h" },
      { call := .templateAsync "date" }, { call := .literal "i" }] } }
  | _ => { body := { name := "text", steps := [{ call := .literal "xy" }, { call := .flush },
      { call := .literal "z" }] } }

/-- The writer takes a byte, and is not ready then. -/
def letterFrame : Frame StagedSink where
  pass := .start {} none
  task := { sink := { writer := { script := [.accept 1, .notReady] } } }

theorem write_template_firstPoll_letterSite :
    let nesting := letterSite.nesting 2
    let written (name : String) := ((write (.template name)).perform nesting letterFrame).drive 3
    let encoded (name : String) :=
      ((write (.encoded (.template name))).perform nesting letterFrame).drive 3
    written "name" = ((templateAsync "name").perform nesting letterFrame).drive 0 ∧
      (written "name").outcome? = some (.ok .unit) ∧
      (written "head").outcome? = some (.failed .nestedSuspended) ∧
      (written "head").state.task.sink.staged = "hd" ∧
      (encoded "text").outcome? = some (.failed .nestedSuspended) ∧
      (encoded "text").state.task.sink.writer.accepted = ScriptedWriter.utf8 "x" ∧
      letterSite.Suspends 2 {} (letterSite "head").body none { sink := letterFrame } ∧
      letterSite.Suspends 2 {} (letterSite "text").body none { sink := letterFrame } := by
  intro nesting written encoded
  obtain ⟨through, -, -, -⟩ :=
    write_template_firstPoll (v := .template "name") letterSite 2 "name" letterFrame (.inl rfl)
  obtain ⟨-, headWaits, -, headSuspends⟩ :=
    write_template_firstPoll (v := .template "head") letterSite 2 "head" letterFrame (.inl rfl)
  obtain ⟨-, textWaits, -, textSuspends⟩ :=
    write_template_firstPoll (v := .encoded (.template "text")) letterSite 2 "text" letterFrame
      (.inr rfl)
  have ended : (((templateAsync "name").perform nesting letterFrame).drive 0).outcome? =
      some (.ok .unit) := by
    decide +kernel
  have head : (((templateAsync "head").perform nesting letterFrame).drive 0).outcome? = none := by
    decide +kernel
  have text : (((templateAsync "text").perform nesting letterFrame).drive 0).outcome? = none := by
    decide +kernel
  have same : written "name" = _ := through (by rw [ended]; nofun) 3
  have headShown : written "head" = _ := headWaits head 3
  have textShown : encoded "text" = _ := textWaits text 3
  refine ⟨same, ?_, ?_, ?_, ?_, ?_, headSuspends.mp head, textSuspends.mp text⟩
  · rw [same]
    exact ended
  · rw [headShown]
  · rw [headShown]
    decide +kernel
  · rw [textShown]
  · rw [textShown]
    decide +kernel

end Call

end Templating
