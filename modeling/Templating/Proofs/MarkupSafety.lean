import Templating.Proofs.AlikePasses
import Templating.Proofs.CancelledRenders

/-!
# Dynamic text brings no markup

Templates are alike that differ in their plain values at most, and where neither of two values is
absent unless both are. Rendered under the HTML encoding into memory they go in parallel: a plain
value is escaped wherever it is written, and nothing depends on it but whether it is absent. So
all the markup of a text comes from literals and from what was marked as safe
(`Template.render_markup`).
-/

namespace Templating

variable {σ τ α β : Type}

/-- The same values, or plain values of which both are absent or neither is. -/
inductive Value.Alike : Value → Value → Prop
  | same (v : Value) : Alike v v
  | plain {text? text?' : Option String}
      (absent : (MarkedText.dynamic text?).isAbsent = (MarkedText.dynamic text?').isAbsent) :
      Alike (.plain text?) (.plain text?')

/-- Calls that differ in a value at most, which is no literal fragment of an attribute. -/
inductive Call.Alike : Call → Call → Prop
  | same (call : Call) : Alike call call
  | write {v w : Value} (values : v.Alike w) : Alike (.write v) (.write w)
  | attributeValue {head : FragmentHead} {v w : Value} (dynamic : head.literal = false)
      (values : v.Alike w) : Alike (.attributeValue head v) (.attributeValue head w)

structure Step.Alike (x y : Step) : Prop where
  call : x.call.Alike y.call
  tolerant : x.tolerant = y.tolerant
  needs : x.needs? = y.needs?

structure Body.Alike (a b : Body) : Prop where
  name : a.name = b.name
  steps : List.Forall₂ Step.Alike a.steps b.steps

structure Blueprint.Alike (a b : Blueprint) : Prop where
  body : a.body.Alike b.body
  config : a.config = b.config

def Catalog.Alike (catalog catalog' : Catalog) : Prop :=
  ∀ name, (catalog name).Alike (catalog' name)

/-- Both destinations are in memory. They stay together whatever is written to them that has the
same markup, in whatever pieces. -/
structure InMemories [Destination σ] [Destination τ] (now : σ → τ → Prop) : Prop where
  writeAll : ∀ {s t texts texts'}, now s t →
    SameMarkup (String.join texts) (String.join texts') →
    ∃ s' t', Action.writeAll texts s = .done (.ok ()) s' ∧
      Action.writeAll texts' t = .done (.ok ()) t' ∧ now s' t'
  writeAsync : ∀ {s t} text, now s t →
    ∃ s' t', Action.writeAsync text s = .done (.ok ()) s' ∧
      Action.writeAsync text t = .done (.ok ()) t' ∧ now s' t'
  flush : ∀ {s t}, now s t →
    Action.flush s = .done (.ok ()) s ∧ Action.flush t = .done (.ok ()) t

namespace TextBuffer

/-- The same markup came to both buffers behind what they held at first. -/
def Behind (seed seed' : String) (b b' : TextBuffer) : Prop :=
  ∃ text text', b = push ⟨seed⟩ text ∧ b' = push ⟨seed'⟩ text' ∧ SameMarkup text text'

theorem behind_inMemories (seed seed' : String) : InMemories (Behind seed seed') where
  writeAll := by
    rintro _ _ texts texts' ⟨text, text', rfl, rfl, same⟩ more
    exact ⟨_, _, writeAll_eq texts _, writeAll_eq texts' _, _, _, push_push .., push_push ..,
      same.append more⟩
  writeAsync := by
    rintro _ _ more ⟨text, text', rfl, rfl, same⟩
    exact ⟨_, _, rfl, rfl, _, _, push_push .., push_push .., same.append (.refl more)⟩
  flush _ := ⟨rfl, rfl⟩

end TextBuffer

/-- Tasks of which both were cancelled, or neither, and whose sinks belong together. -/
structure Task.Alike (now : σ → τ → Prop) (a : Task σ) (b : Task τ) : Prop where
  cancelled : a.cancelled = b.cancelled
  sink : now a.sink b.sink

structure Frame.Alike (now : σ → τ → Prop) (f : Frame σ) (g : Frame τ) : Prop where
  pass : f.pass.Alike g.pass
  task : f.task.Alike now g.task

namespace InMemories

variable {now : σ → τ → Prop}

/-- Alike frames are in memory if their sinks are. -/
theorem frame [Destination σ] [Destination τ] (memories : InMemories now) :
    InMemories (Frame.Alike now) where
  writeAll := by
    rintro f g texts texts' ⟨pass, task⟩ same
    have taken := pass.takeAll same
    by_cases direct : g.pass.captures = []
    · have direct' : f.pass.captures = [] := pass.captures_eq_nil.mpr direct
      obtain ⟨s, t, left, right, there⟩ := memories.writeAll task.sink same
      exact ⟨_, _, f.writeAll_direct texts direct' left, g.writeAll_direct texts' direct right,
        taken, task.cancelled, there⟩
    · have captured : f.pass.captures ≠ [] := mt pass.captures_eq_nil.mp direct
      exact ⟨_, _, f.writeAll_captured texts captured, g.writeAll_captured texts' direct, taken,
        task⟩
  writeAsync := by
    rintro f g text ⟨pass, task⟩
    have taken : (f.pass.take text).Alike (g.pass.take text) :=
      @Pass.Alike.takeAll _ _ pass [text] [text] (.refl _)
    by_cases direct : g.pass.captures = []
    · have direct' : f.pass.captures = [] := pass.captures_eq_nil.mpr direct
      obtain ⟨s, t, left, right, there⟩ := memories.writeAsync text task.sink
      refine ⟨f.took text s, g.took text t, ?_, ?_, taken, task.cancelled, there⟩
      · rw [Frame.writeAsync_direct f text direct', left]
        rfl
      · rw [Frame.writeAsync_direct g text direct, right]
        rfl
    · have captured : f.pass.captures ≠ [] := mt pass.captures_eq_nil.mp direct
      exact ⟨_, _, Frame.writeAsync_captured f text captured,
        Frame.writeAsync_captured g text direct, taken, task⟩
  flush := by
    rintro f g ⟨pass, task⟩
    by_cases direct : g.pass.captures = []
    · have direct' : f.pass.captures = [] := pass.captures_eq_nil.mpr direct
      obtain ⟨left, right⟩ := memories.flush task.sink
      rw [Frame.flush_direct f direct', Frame.flush_direct g direct, left, right]
      exact ⟨rfl, rfl⟩
    · have captured : f.pass.captures ≠ [] := mt pass.captures_eq_nil.mp direct
      exact ⟨Frame.flush_captured f captured, Frame.flush_captured g direct⟩

end InMemories

/-- Templates of the same name are rendered in parallel, to whatever is in memory. -/
def Nesting.Parallel (nesting nesting' : Nesting) : Prop :=
  ∀ {σ τ : Type} [Destination σ] [Destination τ] {now : σ → τ → Prop}, InMemories now →
    ∀ name, Action.Parallel now Eq (nesting name σ) (nesting' name τ)

namespace Action.Parallel

variable {now : σ → τ → Prop}

/-- What is rendered to memory has the same markup, and leaves the states around it alone. -/
theorem inMemory {act act' : Action TextBuffer Unit}
    (h : Parallel (TextBuffer.Behind "" "") Eq act act') :
    Parallel now SameMarkup act.inMemory act'.inMemory := by
  have start : TextBuffer.Behind "" "" {} {} := ⟨"", "", rfl, rfl, .refl ""⟩
  constructor
  intro s t states
  refine (h.run start).recast (fun _ _ _ => states) ?_
  rintro o o' _ _ ends ⟨text, text', rfl, rfl, same⟩
  refine ends.map fun _ _ _ => ?_
  simpa [TextBuffer.push] using same

theorem change {f g : Pass → Outcome Pass}
    (alike : ∀ p q, p.Alike q → Outcome.Alike Pass.Alike (f p) (g q)) :
    Parallel (Frame.Alike now) Eq (Frame.change f) (Frame.change g) := by
  constructor
  rintro x y ⟨pass, task⟩
  have changed := alike x.pass y.pass pass
  unfold Frame.change
  generalize f x.pass = o, g y.pass = o' at changed ⊢
  cases changed with
  | ok same => exact .done (.ok rfl) ⟨same, task⟩
  | failed e => exact .done (.failed e) ⟨pass, task⟩
  | misused m => exact .done (.misused m) ⟨pass, task⟩
  | tooDeep => exact .done .tooDeep ⟨pass, task⟩

theorem changeWriter {f g : AttributeWriter → Except Misuse AttributeWriter}
    (alike : ∀ w v, w.Alike v → Except.Alike AttributeWriter.Alike (f w) (g v)) :
    Parallel (Frame.Alike now) Eq (Frame.changeWriter f) (Frame.changeWriter g) := by
  refine .change fun p q same => ?_
  have changed := alike p.writer q.writer same.writer
  generalize f p.writer = w, g q.writer = v at changed ⊢
  cases changed with
  | ok writers => exact .ok { same with writer := writers }
  | error m => exact .misused m

theorem setLayout (name : String) :
    Parallel (Frame.Alike now) Eq (Frame.setLayout name) (Frame.setLayout name) := by
  refine .change fun p q same => ?_
  have changed := same.setLayout name
  generalize p.setLayout name = p', q.setLayout name = q' at changed ⊢
  cases changed with
  | ok passes => exact .ok passes
  | error e => exact .failed e

theorem endSection : Parallel (Frame.Alike now) Eq Frame.endSection Frame.endSection := by
  constructor
  rintro f g ⟨pass, task⟩
  have ended := pass.endSection
  unfold Frame.endSection
  generalize f.pass.endSection = x, g.pass.endSection = y at ended ⊢
  exact .done (ended.1 ▸ .refl x.1) ⟨ended.2, task⟩

/-- What alike calls change beforehand. -/
theorem prepare {p q : Pass} (alike : p.Alike q) {call call' : Call} (calls : call.Alike call') :
    (call.prepare p).Alike (call'.prepare q) := by
  cases calls with
  | write values => exact alike
  | attributeValue dynamic values => exact alike
  | same =>
    cases call with
    | endAttribute => exact { alike with writer := alike.writer.close.2 }
    | renderBody =>
      have rendered : ∀ {i j : Option LayoutInput}, Option.Rel LayoutInput.Alike i j →
          Option.Rel LayoutInput.Alike (i.map fun i => { i with bodyRendered := true })
            (j.map fun j => { j with bodyRendered := true }) := by
        intro i j inputs
        cases inputs with
        | none => exact .none
        | some same => exact .some ⟨same.body, same.sections, rfl⟩
      exact { alike with input := rendered alike.input }
    | _ => exact alike

theorem finish : Parallel (Frame.Alike now) (Option.Rel LayoutCall.Alike) Frame.finish
    Frame.finish := by
  have passes : Parallel (Frame.Alike now) Pass.Alike (.read Frame.pass) (.read Frame.pass) :=
    .read fun f g same => same.pass
  refine passes.bind fun p q same => ?_
  have none : p.sections.isEmpty = q.sections.isEmpty := by
    rw [Bool.eq_iff_iff, List.isEmpty_iff_length_eq_zero, List.isEmpty_iff_length_eq_zero,
      same.sections.length_eq]
  rw [same.unfinished?, same.layout, same.sections.length_eq, none]
  split
  · exact .conclude ((Outcome.Alike.refl _).map fun _ _ _ => .none)
  · split
    · exact .andThen (.log _) fun _ => .pure same.next?
    · exact .pure same.next?

theorem isolate {act : Action (Task σ) α} {act' : Action (Task τ) β} {same : α → β → Prop}
    (h : Parallel (Task.Alike now) same act act') :
    Parallel now same (Task.isolate act) (Task.isolate act') :=
  h.focus (fun _ _ here => ⟨rfl, here⟩) fun _ _ _ _ _ there => there.sink

theorem enter {act : Action (Frame σ) α} {act' : Action (Frame τ) β} {same : α → β → Prop}
    {p q : Pass} (passes : p.Alike q) (h : Parallel (Frame.Alike now) same act act') :
    Parallel (Task.Alike now) same (Task.enter p act) (Task.enter q act') :=
  h.focus (fun _ _ here => ⟨passes, here⟩) fun _ _ _ _ _ there => there.task

variable [Destination σ] [Destination τ]

theorem writeAll (memories : InMemories now) {texts texts' : List String}
    (same : SameMarkup (String.join texts) (String.join texts')) :
    Parallel now Eq (Action.writeAll texts) (Action.writeAll texts') := by
  constructor
  intro s t states
  obtain ⟨s', t', left, right, there⟩ := memories.writeAll states same
  rw [left, right]
  exact .done (.ok rfl) there

theorem write (memories : InMemories now) {text text' : String} (same : SameMarkup text text') :
    Parallel now Eq (Action.write text) (Action.write text') := by
  have alone : ∀ {υ : Type} [Destination υ] (text : String),
      Action.writeAll [text] = (Action.write text : Action υ Unit) :=
    fun text => funext fun s => Run.bind_done (Action.write text s)
  rw [← alone, ← alone]
  exact writeAll memories (by simpa using same)

theorem writeAsync (memories : InMemories now) (text : String) :
    Parallel now Eq (Action.writeAsync text) (Action.writeAsync text) := by
  constructor
  intro s t states
  obtain ⟨s', t', left, right, there⟩ := memories.writeAsync text states
  rw [left, right]
  exact .done (.ok rfl) there

theorem flush (memories : InMemories now) : Parallel now Eq Action.flush Action.flush := by
  constructor
  intro s t states
  obtain ⟨left, right⟩ := memories.flush states
  rw [left, right]
  exact .done (.ok rfl) states

theorem closing (memories : InMemories now) {closing closing' : Closing}
    (alike : closing.Alike closing') :
    Parallel now Eq (closing.write .html) (closing'.write .html) := by
  have count : ∀ {a b : Attribute}, a.Alike b →
      Parallel now Eq (Closing.reportCount a) (Closing.reportCount b) := by
    intro a b same
    unfold Closing.reportCount
    rw [same.miscounted, same.head, same.fragments.length_eq]
    split
    · exact .log _
    · exact .pure rfl
  cases alike with
  | refused m => exact .misuse m
  | @leftOut a b same =>
    refine .andThen (count same) fun _ => ?_
    rw [same.head]
    exact .andThen (.log _) fun _ => .pure rfl
  | @written a b same =>
    refine .andThen (count same) fun _ => ?_
    rw [same.head, same.fragments.length_eq]
    exact .andThen (.log _) fun _ => .andThen (.writeAll memories same.portions) fun _ => .pure rfl

theorem sectionOutput (memories : InMemories now) {p q : Pass} (alike : p.Alike q)
    (name : String) : Parallel now Eq (p.sectionOutput name) (q.sectionOutput name) := by
  have inputs := alike.input
  unfold Pass.sectionOutput
  generalize p.input? = i, q.input? = j at inputs ⊢
  cases inputs with
  | none => exact .fail _
  | @some i j same =>
    have found := AlikeSections.lookup same.sections name
    dsimp only
    generalize i.sections.lookup name = text, j.sections.lookup name = text' at found ⊢
    cases found with
    | none => exact .pure rfl
    | some texts => exact .andThen (.write memories texts) fun _ => .pure rfl

variable {nesting nesting' : Nesting}

theorem content (memories : InMemories now) (nested : nesting.Parallel nesting')
    (content : Content) :
    Parallel now Eq (content.write nesting) (content.write nesting') := by
  cases content with
  | html text => exact .writeAll memories (.refl _)
  | marked text => exact .writeAll memories (.refl _)
  | template name => exact (nested memories name).firstPoll

theorem value (memories : InMemories now) (nested : nesting.Parallel nesting') {v w : Value}
    (alike : v.Alike w) : Parallel now Eq (v.output nesting .html) (w.output nesting' .html) := by
  cases alike with
  | same v =>
    cases v with
    | plain text? => exact .writeAll memories (.refl _)
    | safe text => exact .writeAll memories (.refl _)
    | encoded content => exact .content memories nested content
    | template name => exact (nested memories name).firstPoll
  | plain absent =>
    exact .writeAll memories
      (MarkedText.Alike.portions ⟨rfl, absent, fun safe => nomatch safe⟩)

omit [Destination σ] [Destination τ] in
/-- A value as a fragment of an attribute, where a literal fragment is no dynamic value. -/
theorem resolve (nested : nesting.Parallel nesting') {v w : Value} (alike : v.Alike w)
    {head : FragmentHead} (dynamic : v = w ∨ head.literal = false) :
    Parallel now (fun t u => Fragment.Alike { head, value := t } { head, value := u })
      (v.resolve nesting) (w.resolve nesting') := by
  have memories := TextBuffer.behind_inMemories "" ""
  have rendered : ∀ {s t : String}, SameMarkup s t →
      Fragment.Alike { head, value := .raw s } { head, value := .raw t } :=
    fun same => ⟨rfl, .raw same, fun _ => same⟩
  cases alike with
  | same v =>
    cases v with
    | plain text? => exact .pure ⟨rfl, .refl _, fun _ => .refl _⟩
    | safe text => exact .pure (rendered (.refl text))
    | encoded content =>
      exact .bind (.inMemory (.content memories nested content)) fun _ _ same =>
        .pure (rendered same)
    | template name =>
      exact .bind (.inMemory (nested memories name).firstPoll) fun _ _ same =>
        .pure (rendered same)
  | @plain text? text?' absent =>
    refine .pure ⟨rfl, ⟨rfl, absent, fun safe => nomatch safe⟩, fun literal => ?_⟩
    rcases dynamic with same | plain
    · cases same
      exact .refl _
    · exact absurd literal (by simp [plain])

/-- What alike calls write. -/
theorem output (memories : InMemories now) (nested : nesting.Parallel nesting') {p q : Pass}
    (alike : p.Alike q) {call call' : Call} (calls : call.Alike call') :
    Parallel now Eq (call.output nesting p) (call'.output nesting' q) := by
  have html : p.config.encoding = .html := by rw [alike.config, alike.html]
  cases calls with
  | write values =>
    unfold Call.output
    rw [html, alike.html]
    exact .unit (.value memories nested values)
  | attributeValue dynamic values => exact .pure rfl
  | same =>
    cases call with
    | literal text =>
      refine .unit ?_
      split
      · exact .pure rfl
      · exact .write memories (.refl text)
    | literalAsync text =>
      refine .unit ?_
      split
      · exact .pure rfl
      · exact .writeAsync memories text
    | write v =>
      unfold Call.output
      rw [html, alike.html]
      exact .unit (.value memories nested (.same v))
    | templateAsync name => exact .unit (nested memories name)
    | flush => exact .unit (.flush memories)
    | endAttribute =>
      unfold Call.output
      rw [html, alike.html]
      exact .unit (.andThen (.closing memories alike.writer.close.1) fun _ => .pure rfl)
    | renderBody =>
      have inputs := alike.input
      unfold Call.output
      generalize p.input? = i, q.input? = j at inputs ⊢
      cases inputs with
      | none => exact .fail _
      | some same => exact .unit (.write memories same.body)
    | renderSection name =>
      refine .unit (.andThen (.sectionOutput memories alike name) fun found => ?_)
      split
      · exact .fail _
      · exact .pure rfl
    | renderSectionOptional name =>
      exact .andThen (.sectionOutput memories alike name) fun found => .pure rfl
    | _ => exact .pure rfl

/-- Alike calls go in parallel on alike frames, and answer the same. -/
theorem perform (memories : InMemories now) (nested : nesting.Parallel nesting')
    {call call' : Call} (calls : call.Alike call') :
    Parallel (Frame.Alike now) Eq (call.perform nesting) (call'.perform nesting') := by
  have agree : call'.writes = call.writes := by
    cases calls <;> rfl
  by_cases writing : call.writes = true
  · constructor
    rintro f g ⟨pass, task⟩
    rw [Call.perform_output nesting call f writing,
      Call.perform_output nesting' call' g (agree.trans writing)]
    exact (output memories.frame nested pass calls).run ⟨prepare pass calls, task⟩
  · cases calls with
    | write values => exact absurd rfl writing
    | attributeValue dynamic values =>
      exact .unit (.bind (.resolve nested values (.inr dynamic)) fun _ _ fragments =>
        .changeWriter fun _ _ same => same.add fragments)
    | same =>
      cases call with
      | beginAttribute head => exact .unit (.changeWriter fun _ _ same => same.start head)
      | attributeValue head value =>
        exact .unit (.bind (.resolve nested (.same value) (.inl rfl)) fun _ _ fragments =>
          .changeWriter fun _ _ same => same.add fragments)
      | setLayout name => exact .unit (.setLayout name)
      | beginSection name => exact .unit (.change fun _ _ same => same.beginSection name)
      | endSection => exact .unit .endSection
      | isSectionDefined name => exact .read fun f g same => by rw [same.pass.isSectionDefined]
      | encoding => exact .read fun f g same => by rw [same.pass.config]
      | config => exact .read fun f g same => by rw [same.pass.config]
      | cancel => exact .unit (.update fun f g same => ⟨same.pass, rfl, same.task.sink⟩)
      | isCancelled => exact .read fun f g same => by rw [same.task.cancelled]
      | ensureNotCancelled =>
        refine .unit (.andThen (.read fun f g same => same.task.cancelled) fun cancelled => ?_)
        split
        · exact .fail _
        · exact .pure rfl
      | fail error => exact .fail error
      | wait polls => exact .unit (.wait polls)
      | stall => exact .unit .stall
      | _ => exact absurd rfl writing

theorem step (memories : InMemories now) (nested : nesting.Parallel nesting')
    (template : String) (position : Nat) {x y : Step} (alike : x.Alike y) :
    Parallel (Frame.Alike now) Eq (x.run nesting template position)
      (y.run nesting' template position) := by
  have skipped : ∀ f g, Frame.Alike now f g → x.isSkipped f.pass = y.isSkipped g.pass := by
    intro f g same
    unfold Step.isSkipped
    rw [alike.needs]
    split
    · rw [same.pass.isSectionDefined]
    · rfl
  refine .andThen (.read skipped) fun skipped => ?_
  split
  · exact .report _
  · refine .bind (.attempt (.perform memories nested alike.call)) fun o o' ends => ?_
    obtain rfl := ends.eq
    refine .andThen (.report _) fun _ => ?_
    rw [alike.tolerant]
    cases o with
    | ok reply => exact .pure rfl
    | failed e =>
      dsimp only
      split
      · exact .pure rfl
      · exact .fail e
    | misused m =>
      dsimp only
      split
      · exact .pure rfl
      · exact .misuse m
    | tooDeep => exact .conclude .tooDeep

theorem runAll (memories : InMemories now) (nested : nesting.Parallel nesting')
    (template : String) (position : Nat) {steps steps' : List Step}
    (alike : List.Forall₂ Step.Alike steps steps') :
    Parallel (Frame.Alike now) Eq (Step.runAll nesting template position steps)
      (Step.runAll nesting' template position steps') := by
  induction alike generalizing position with
  | nil => exact .pure rfl
  | cons first later ih =>
    exact .andThen (.step memories nested template position first) fun _ => ih (position + 1)

end Action.Parallel

/-- Executions of alike bodies go in parallel, if all is written as HTML. -/
theorem execute_parallel {catalog catalog' : Catalog} (catalogs : catalog.Alike catalog')
    (html : ∀ name, (catalog name).config.encoding = .html) (depth : Nat) {σ τ : Type}
    [Destination σ] [Destination τ] {now : σ → τ → Prop} (memories : InMemories now)
    {config : Config} (encoding : config.encoding = .html) {body body' : Body}
    (bodies : body.Alike body') {i j : Option LayoutInput}
    (inputs : Option.Rel LayoutInput.Alike i j) :
    Action.Parallel (Task.Alike now) Eq (execute catalog depth config body i)
      (execute catalog' depth config body' j) := by
  induction depth generalizing σ τ config body body' i j with
  | zero => exact .conclude .tooDeep
  | succ depth ih =>
    rw [execute_succ, execute_succ]
    have nested : (catalog.nesting depth).Parallel (catalog'.nesting depth) := by
      intro σ τ _ _ now memories name
      have alike := catalogs name
      unfold Catalog.nesting
      rw [← alike.config]
      exact .isolate (ih memories (html name) alike.body .none)
    refine .bind (.enter (.start encoding inputs) (.andThen ?_ fun _ => .finish))
      fun n n' calls => ?_
    · unfold Body.run
      rw [bodies.name]
      exact .runAll memories nested body'.name 0 bodies.steps
    · cases calls with
      | none => exact .pure rfl
      | @some c d same =>
        unfold Catalog.proceed
        dsimp only
        rw [same.input.sections.length_eq, same.layout]
        exact .andThen (.log _) fun _ =>
          ih memories encoding (catalogs d.layout).body (.some same.input)

theorem Blueprint.renderCancellable_parallel {catalog catalog' : Catalog}
    (catalogs : catalog.Alike catalog') (html : ∀ name, (catalog name).config.encoding = .html)
    (depth : Nat) [Destination σ] [Destination τ] {now : σ → τ → Prop} (memories : InMemories now)
    {b b' : Blueprint} (alike : b.Alike b') (encoding : b.config.encoding = .html)
    (allowed : Option Nat) :
    Action.Parallel now Eq (b.renderCancellable catalog depth allowed)
      (b'.renderCancellable catalog' depth allowed) := by
  have executed := execute_parallel catalogs html depth memories encoding alike.body .none
  unfold Blueprint.renderCancellable
  rw [← alike.config]
  exact .isolate (executed.untilCancelled (fun _ _ same => same.cancelled) allowed)

/-- The decision about an attribute that an event reports. -/
def Event.decision? : Event → Option (String × Bool)
  | .log (.attributeWritten name _) => some (name, true)
  | .log (.attributeLeftOut name) => some (name, false)
  | _ => none

namespace Template

/-- What a render into the own buffer shows of its execution. -/
theorem render_shows (catalog : Catalog) (depth : Nat) (t : Template) (allowed : Option Nat)
    (polls : Nat) {text : String} :
    let core := (t.blueprint.renderCancellable catalog depth allowed).drive polls t.output
    let d := (render catalog depth allowed).drive polls t
    core.state = t.output.push text →
      d.events.filterMap Event.decision? = core.events.filterMap Event.decision? ∧
      d.outcome? = core.outcome?.map (·.map fun _ => text) := by
  intro core d left
  cases polls with
  | zero => exact ⟨rfl, rfl⟩
  | succ more =>
    have shown : d = core.within (.log (.renderStarted .buffer)) _ _ :=
      (t.render_encloses catalog depth allowed).polled more
    have quiet : ∀ o b, (Blueprint.closeBuffer t.output.length o b).events.filterMap
        Event.decision? = [] := by
      intro o b
      cases o with
      | ok _ =>
        unfold Blueprint.closeBuffer Blueprint.readSince
        rw [Run.bind_ok, Action.read_bind]
        cases b.since? t.output.length <;> rfl
      | _ => rfl
    rw [shown]
    unfold Driven.within Driven.closed
    cases ended : core.outcome? with
    | none => exact ⟨rfl, rfl⟩
    | some o =>
      dsimp only
      rw [left, Blueprint.closeBuffer_push]
      refine ⟨?_, rfl⟩
      rw [List.filterMap_cons_none rfl, List.filterMap_append, quiet, List.append_nil]

/-- Two templates differ in plain values only, none of which is absent in one of them alone, and all
that they refer to likewise; everything is written as HTML. Rendered into their buffers they decide
alike about every attribute, and if one of them returns a text, so does the other, with the same
markup. -/
theorem render_markup {catalog catalog' : Catalog} (catalogs : catalog.Alike catalog')
    (html : ∀ name, (catalog name).config.encoding = .html) {t t' : Template}
    (alike : t.blueprint.Alike t'.blueprint) (encoding : t.blueprint.config.encoding = .html)
    (depth : Nat) (allowed : Option Nat) (polls : Nat) :
    let d := (render catalog depth allowed).drive polls t
    let d' := (render catalog' depth allowed).drive polls t'
    d.events.filterMap Event.decision? = d'.events.filterMap Event.decision? ∧
      ∀ text, d.outcome? = some (.ok text) →
        ∃ text', d'.outcome? = some (.ok text') ∧ markup text = markup text' := by
  intro d d'
  have memories := TextBuffer.behind_inMemories t.output.text t'.output.text
  have start : TextBuffer.Behind t.output.text t'.output.text t.output t'.output :=
    ⟨"", "", t.output.push_empty.symm, t'.output.push_empty.symm, .refl ""⟩
  have parallel := Blueprint.renderCancellable_parallel catalogs html depth memories alike encoding
    allowed
  obtain ⟨events, ⟨text, text', left, left', same⟩, ends⟩ := parallel.drive start polls
  obtain ⟨decisions, outcome⟩ := t.render_shows catalog depth allowed polls left
  obtain ⟨decisions', outcome'⟩ := t'.render_shows catalog' depth allowed polls left'
  refine ⟨by rw [decisions, decisions', events], fun result returned => ?_⟩
  have returned := outcome.symm.trans returned
  generalize ((t.blueprint.renderCancellable catalog depth allowed).drive polls
    t.output).outcome? = o at ends returned
  generalize ((t'.blueprint.renderCancellable catalog' depth allowed).drive polls
    t'.output).outcome? = o' at ends outcome'
  cases ends with
  | none => cases returned
  | some alike =>
    cases alike with
    | ok values =>
      cases returned
      exact ⟨text', outcome', same.markup⟩
    | _ => cases returned

/-- A page with a layout and an attribute, written with the text of a visitor. -/
def greeting (visitor : Option String) : Catalog
  | "page" =>
    { body := { name := "page", steps := [{ call := .setLayout "layout" },
        { call := .beginAttribute { name := "title", opening := " title=\"", closing := "\"" } },
        { call := .attributeValue {} (.plain visitor) },
        { call := .attributeValue {} (.template "name") }, { call := .endAttribute },
        { call := .write (.plain visitor) }] } }
  | "name" =>
    { body := { name := "name", steps := [{ call := .literal "<b>" },
        { call := .write (.plain visitor) }] } }
  | _ =>
    { body := { name := "layout", steps := [{ call := .literal "<p" }, { call := .renderBody }] } }

theorem greeting_alike {visitor visitor' : Option String}
    (absent : (MarkedText.dynamic visitor).isAbsent = (MarkedText.dynamic visitor').isAbsent) :
    (greeting visitor).Alike (greeting visitor') := by
  have same : ∀ call : Call, Step.Alike { call } { call } := fun call => ⟨.same call, rfl, rfl⟩
  have written : Step.Alike { call := .write (.plain visitor) }
      { call := .write (.plain visitor') } := ⟨.write (.plain absent), rfl, rfl⟩
  have fragment : Step.Alike { call := .attributeValue {} (.plain visitor) }
      { call := .attributeValue {} (.plain visitor') } :=
    ⟨.attributeValue rfl (.plain absent), rfl, rfl⟩
  intro name
  unfold greeting
  split
  · exact ⟨⟨rfl, .cons (same _) (.cons (same _) (.cons fragment (.cons (same _) (.cons (same _)
      (.cons written .nil)))))⟩, rfl⟩
  · exact ⟨⟨rfl, .cons (same _) (.cons written .nil)⟩, rfl⟩
  · exact ⟨⟨rfl, .cons (same _) (.cons (same _) .nil)⟩, rfl⟩

/-- The page of the greeting, with a buffer that is not empty. -/
def greetingPage (visitor : Option String) : Template where
  blueprint := greeting visitor "page"
  output := { text := "<" }

/-- The visitor who tries to leave the attribute brings no more markup than the other one. -/
theorem render_markup_greeting :
    let d := (render (greeting (some "\"<")) 3 none).drive 1 (greetingPage (some "\"<"))
    let d' := (render (greeting (some "me")) 3 none).drive 1 (greetingPage (some "me"))
    (greeting (some "\"<")).Alike (greeting (some "me")) ∧
      (∀ visitor name, (greeting visitor name).config.encoding = .html) ∧
      d.events.filterMap Event.decision? = [("title", true)] ∧
      d'.events.filterMap Event.decision? = [("title", true)] ∧
      ∃ text text', d.outcome? = some (.ok text) ∧ d'.outcome? = some (.ok text') ∧
        markup text = ['<', '"', '<', '>', '"'] ∧ markup text' = ['<', '"', '<', '>', '"'] := by
  have alike : (greeting (some "\"<")).Alike (greeting (some "me")) := greeting_alike rfl
  have html : ∀ visitor name, (greeting visitor name).config.encoding = .html := by
    intro visitor name
    unfold greeting
    split <;> rfl
  have decisions : ((render (greeting (some "\"<")) 3 none).drive 1
      (greetingPage (some "\"<"))).events.filterMap Event.decision? = [("title", true)] := by
    decide +kernel
  have returned : ((render (greeting (some "\"<")) 3 none).drive 1
      (greetingPage (some "\"<"))).outcome? =
        some (.ok "<p title=\"&quot;&lt;<b>&quot;&lt;\"&quot;&lt;") := by
    decide +kernel
  obtain ⟨same, texts⟩ := @render_markup _ _ alike (html _) (greetingPage (some "\"<"))
    (greetingPage (some "me")) (alike "page") (html _ "page") 3 none 1
  obtain ⟨text', returned', markups⟩ := texts _ returned
  have few : markup "<p title=\"&quot;&lt;<b>&quot;&lt;\"&quot;&lt;" =
      ['<', '"', '<', '>', '"'] := by
    decide +kernel
  exact ⟨alike, html, decisions, same.symm.trans decisions, _, text', returned, returned', few,
    markups.symm.trans few⟩

end Template

end Templating
