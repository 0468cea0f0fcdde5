import Templating.Proofs.BodyHistory
import Templating.Proofs.Renders

/-!
# Chains of layouts

An execution is a chain of passes: over the page, then over the layout that the page chose last,
then over the layout that this one chose, and so on. `Catalog.Chain` links them: a pass hands on
what it wrote outside of sections and the sections that it closed, and nothing else of it or of
earlier passes reaches the next one. What an execution delivers is what its last pass wrote outside
of sections.
-/

namespace Templating

variable {σ : Type}

/-- What a pass hands on to the layout that it chose. -/
def Books.handedOn (b : Books) : LayoutInput :=
  { body := String.join b.outside, sections := b.closed }

/-- One pass of a chain: what it may render of the pass before, and the calls that it made. -/
structure Turn where
  input? : Option LayoutInput
  history : List Entry
  deriving DecidableEq

def Turn.books (t : Turn) : Books :=
  Books.ofHistory t.history

/-- The layout that the pass chose last. -/
def Turn.layout? (t : Turn) : Option String :=
  (t.history.filterMap Entry.layout?).getLast?

/-- The passes of an execution, none of which made a call that was a misuse, from one task to the
other: the earlier ones, and the last. The flag says whether the last was played to its end. -/
inductive Catalog.Chain [Destination σ] (catalog : Catalog) (config : Config) :
    Nat → Body → Option LayoutInput → Task (Logged σ) → List Turn → Turn → Task (Logged σ) →
      Bool → Prop
  | unstarted (body : Body) (input? : Option LayoutInput) (task : Task (Logged σ)) :
      Chain catalog config 0 body input? task [] { input?, history := [] } task false
  | last {depth : Nat} {body : Body} {task : Task (Logged σ)} {turn : Turn}
      {f : Frame (Logged σ)} {whole : Bool}
      (played : Step.Played (catalog.nesting depth) body.steps
        { pass := .start config turn.input?, task } turn.history f whole)
      (calm : ∀ e ∈ turn.history, e.panicked = false) :
      Chain catalog config (depth + 1) body turn.input? task [] turn f.task whole
  | next {depth : Nat} {body : Body} {task task' : Task (Logged σ)} {turn final : Turn}
      {f : Frame (Logged σ)} {name : String} {earlier : List Turn} {whole : Bool}
      (played : Step.Played (catalog.nesting depth) body.steps
        { pass := .start config turn.input?, task } turn.history f true)
      (calm : ∀ e ∈ turn.history, e.panicked = false)
      (chosen : turn.layout? = some name)
      (later : Chain catalog config depth (catalog name).body (some turn.books.handedOn) f.task
        earlier final task' whole) :
      Chain catalog config (depth + 1) body turn.input? task (turn :: earlier) final task' whole

theorem Pass.openSection?_of_finished {p : Pass} (finished : p.unfinished? = none) :
    p.openSection? = none := by
  unfold Pass.unfinished? at finished
  split at finished
  · cases finished
  · cases finished
  · next unopened => exact unopened

/-- Played as a whole and finished, a pass leaves to the next what the books say. -/
theorem Books.Balanced.next? {config : Config} {input? : Option LayoutInput} {log : List String}
    {b : Books} {f : Frame (Logged σ)} (balanced : b.Balanced config input? log f)
    (finished : f.pass.unfinished? = none) :
    f.pass.next? = b.layout?.map fun layout => { layout, input := b.handedOn } := by
  have unopened := Pass.openSection?_of_finished finished
  obtain ⟨⟨writer, bodyRendered, pass⟩, -, -⟩ := balanced
  rw [pass] at unopened ⊢
  have closed : b.opened? = none := by
    cases opened : b.opened? with
    | none => rfl
    | some s => simp [Pass.openSection?, Books.pass, Books.captures, opened] at unopened
  cases chosen : b.layout? with
  | none => simp [Pass.next?, Books.pass, chosen]
  | some layout =>
    simp [Pass.next?, Pass.bodyText, Books.pass, Books.captures, Books.handedOn, chosen, closed]

variable [Destination σ]

/-- An execution whose calls are no misuses is a chain of passes; one that ends with a value ends
with a pass that chose no layout. -/
theorem execute_chain (catalog : Catalog) (config : Config) (depth : Nat) (body : Body)
    (input? : Option LayoutInput) (task : Task (Logged σ)) (more : Nat) :
    let d := (execute catalog depth config body input? task).drive more
    (∀ event ∈ d.events, event.panicked = false) →
      ∃ earlier final whole,
        catalog.Chain config depth body input? task earlier final d.state whole ∧
          (d.outcome? = some (.ok ()) → whole = true ∧ final.layout? = none) := by
  induction depth generalizing body input? task more with
  | zero =>
    exact fun _ => ⟨[], _, false, .unstarted body input? task, fun ended => nomatch ended⟩
  | succ depth ih =>
    intro d calm
    let start : Frame (Logged σ) := { pass := .start config input?, task }
    let first := (catalog.pass depth body start).drive more
    obtain ⟨history, whole, played, ends, reports⟩ := catalog.pass_played depth body start more
    let turn : Turn := { input?, history }
    have entered := Run.drive_recast (catalog.pass depth body start) Frame.task (fun o _ => o) more
    have turnCalm : (∀ event ∈ first.events, event.panicked = false) →
        ∀ e ∈ turn.history, e.panicked = false := by
      intro firstCalm e member
      cases panicked : e.panicked with
      | false => rfl
      | true =>
        obtain ⟨event, seen, bad⟩ := reports e member panicked
        exact absurd ((firstCalm event seen).symm.trans bad) Bool.false_ne_true
    rcases Run.drive_bind_cases (Task.enter (.start config input?) (catalog.pass depth body) task)
      (fun next? task => catalog.proceed depth config next? task) more with
      ⟨next?, later, value, events, state, outcome⟩ | ⟨-, halted, events, state⟩
    · have left : d.state = _ := state
      have ended : d.outcome? = _ := outcome
      have shown : d.events = _ := events
      have entered' : (Task.enter (.start config input?) (catalog.pass depth body) task).drive
        more = _ := entered
      rw [entered'] at value left ended shown
      have calmHistory : ∀ e ∈ turn.history, e.panicked = false :=
        turnCalm fun event seen => calm event (shown ▸ List.mem_append_left _ seen)
      have gave : first.outcome? = some (.ok next?) := by
        simpa using value
      obtain ⟨rfl, finished, next⟩ := ends next? gave
      have reached := played.reached .start calmHistory
      have balanced := reached.balanced (catalog.nesting_natural depth)
      have hands : next? = turn.layout?.map fun layout =>
          { layout, input := turn.books.handedOn } := by
        rw [next, balanced.next? finished, Books.ofHistory_layout?]
        rfl
      cases chosen : turn.layout? with
      | none =>
        rw [chosen] at hands
        subst hands
        refine ⟨[], turn, true, ?_, fun _ => ⟨rfl, chosen⟩⟩
        rw [left]
        exact .last played calmHistory
      | some name =>
        rw [chosen] at hands
        subst hands
        obtain ⟨earlier, final, whole, chain, complete⟩ := ih (catalog name).body
          (some turn.books.handedOn) first.state.task later fun event seen => calm event (by
            rw [shown]
            exact List.mem_append_right _ (List.mem_cons_of_mem _ seen))
        refine ⟨turn :: earlier, final, whole, ?_, fun ok => complete (ended ▸ ok)⟩
        rw [left]
        exact .next played calmHistory chosen chain
    · have left : d.state = _ := state
      have shown : d.events = _ := events
      have unfinished : d.outcome? ≠ some (.ok ()) := halted ()
      have entered' : (Task.enter (.start config input?) (catalog.pass depth body) task).drive
        more = _ := entered
      rw [entered'] at left shown
      rw [left]
      refine ⟨[], turn, whole, .last played (turnCalm ?_), fun ok => absurd ok unfinished⟩
      exact fun event seen => calm event (shown ▸ seen)

/-- Every entry of a history was made at a point of the pass. -/
theorem Frame.Reached.entries {nesting : Nesting} {start f : Frame (Logged σ)}
    {history : List Entry} (reached : Frame.Reached nesting start history f) :
    ∀ e ∈ history, ∃ before g call more,
      Frame.Reached nesting start before g ∧ e = Call.entry nesting call more g := by
  induction reached with
  | start => exact fun _ member => nomatch member
  | @call history f before call more calm ih =>
    intro e member
    rcases List.mem_append.mp member with earlier | here
    · exact ih e earlier
    · exact ⟨history, f, call, more, before, List.mem_singleton.mp here⟩

/-- A call that asks for the configuration, or for the page that a layout stands around, is
answered from these alone. Body and sections are written as they are, however often. -/
def Entry.AnswersFrom (config : Config) (input? : Option LayoutInput) (e : Entry) : Prop :=
  match e.call, input? with
  | .config, _ => e.outcome? = some (.ok (.config config))
  | .encoding, _ => e.outcome? = some (.ok (.encoding config.encoding))
  | .isSectionDefined _, none => e.outcome? = some (.ok (.flag false))
  | .isSectionDefined name, some input =>
    e.outcome? = some (.ok (.flag (input.sections.lookup name).isSome))
  | .renderBody, none | .renderSection _, none | .renderSectionOptional _, none =>
    e.texts = [] ∧ e.outcome? = some (.failed .notInLayout)
  | .renderBody, some input => e.texts = [input.body]
  | .renderSection name, some input =>
    match input.sections.lookup name with
    | some text => e.texts = [text]
    | none => e.texts = [] ∧ e.outcome? = some (.failed (.sectionNotDefined name))
  | .renderSectionOptional name, some input =>
    match input.sections.lookup name with
    | some text => e.texts = [text] ∧ ∀ reply, e.outcome? = some (.ok reply) → reply = .flag true
    | none => e.texts = [] ∧ e.outcome? = some (.ok (.flag false))
  | _, _ => True

theorem Call.issued_of_visits {nesting : Nesting} {call : Call} {f : Frame σ} {texts : List String}
    (writes : ∀ l : Logged (Frame σ), (call.output nesting f.pass l).Visits fun l' =>
      l'.texts = l.texts ++ texts) (more : Nat) : call.issued nesting more f = texts :=
  (writes { sink := { f with pass := call.prepare f.pass } }).drive more

/-- A call that ends at once, whatever it would write to, issues nothing. -/
theorem Call.entry_of_done {nesting : Nesting} {call : Call} {g : Frame σ} {o : Outcome Reply}
    (writing : call.writes = true)
    (ends : ∀ {τ : Type} [Destination τ] (t : τ), call.output nesting g.pass t = .done o t)
    (more : Nat) :
    (call.entry nesting more g).texts = [] ∧ (call.entry nesting more g).outcome? = some o := by
  constructor
  · refine Call.issued_of_visits (fun l => ?_) more
    rw [ends]
    exact (List.append_nil _).symm
  · rw [Call.entry, call.perform_output nesting g writing, ends]
    rfl

theorem Pass.sectionOutput_visits {p : Pass} {input : LayoutInput} {name text : String}
    (page : p.input? = some input) (found : input.sections.lookup name = some text)
    (l : Logged σ) : (p.sectionOutput name l).Visits fun l' => l'.texts = l.texts ++ [text] := by
  rw [Pass.sectionOutput_found page found]
  exact (Logged.write_visits text l).bind fun _ _ wrote => wrote

/-- However often the body was rendered, a call is answered from the input of its pass. -/
theorem Call.entry_answers {nesting : Nesting} {config : Config} {input? : Option LayoutInput}
    {bodyRendered : Bool} {g : Frame σ} (configured : g.pass.config = config)
    (page : g.pass.input? = input?.map ({ · with bodyRendered })) (call : Call) (more : Nat) :
    (call.entry nesting more g).AnswersFrom config input? := by
  cases call with
  | config =>
    change some (Outcome.ok (Reply.config g.pass.config)) = _
    rw [configured]
  | encoding =>
    change some (Outcome.ok (Reply.encoding g.pass.config.encoding)) = _
    rw [configured]
  | isSectionDefined name =>
    have answer : (Call.entry nesting (.isSectionDefined name) more g).outcome? =
        some (.ok (.flag (g.pass.isSectionDefined name))) := rfl
    rw [Pass.isSectionDefined, page] at answer
    cases input? <;> exact answer
  | renderBody =>
    cases input? with
    | none => exact Call.entry_of_done rfl (fun t => by simp only [Call.output, page]; rfl) more
    | some input =>
      refine Call.issued_of_visits (fun l => ?_) more
      simp only [Call.output, page, Option.map_some]
      exact (Logged.write_visits input.body l).bind fun _ _ wrote => wrote
  | renderSection name =>
    cases input? with
    | none =>
      refine Call.entry_of_done rfl (fun t => ?_) more
      simp only [Call.output, Pass.sectionOutput, page]
      rfl
    | some input =>
      cases found : input.sections.lookup name with
      | none =>
        have refused : (Call.entry nesting (.renderSection name) more g).texts = [] ∧
            (Call.entry nesting (.renderSection name) more g).outcome? =
              some (.failed (.sectionNotDefined name)) := by
          refine Call.entry_of_done rfl (fun t => ?_) more
          change Run.bind _ (Run.bind _ (g.pass.sectionOutput name t)) = _
          rw [Pass.sectionOutput_absent page found]
          rfl
        simpa only [Entry.AnswersFrom, Call.entry, found] using refused
      | some text =>
        have issues : (Call.renderSection name).issued nesting more g = [text] := by
          refine Call.issued_of_visits (fun l => ?_) more
          refine Run.Visits.bind (Run.Visits.bind (Pass.sectionOutput_visits page found l) ?_) ?_
          · intro defined l' wrote
            cases defined <;> exact wrote
          · exact fun _ _ wrote => wrote
        simpa only [Entry.AnswersFrom, Call.entry, found] using issues
  | renderSectionOptional name =>
    cases input? with
    | none =>
      refine Call.entry_of_done rfl (fun t => ?_) more
      simp only [Call.output, Pass.sectionOutput, page]
      rfl
    | some input =>
      cases found : input.sections.lookup name with
      | none =>
        have unfound : (Call.entry nesting (.renderSectionOptional name) more g).texts = [] ∧
            (Call.entry nesting (.renderSectionOptional name) more g).outcome? =
              some (.ok (.flag false)) := by
          refine Call.entry_of_done rfl (fun t => ?_) more
          change Run.bind _ (g.pass.sectionOutput name t) = _
          rw [Pass.sectionOutput_absent page found]
          rfl
        simpa only [Entry.AnswersFrom, Call.entry, found] using unfound
      | some text =>
        have issues : (Call.renderSectionOptional name).issued nesting more g = [text] := by
          refine Call.issued_of_visits (fun l => ?_) more
          change Run.Visits _ (Run.bind _ (g.pass.sectionOutput name l))
          exact (Pass.sectionOutput_visits page found l).bind fun _ _ wrote => wrote
        have replies : ∀ reply, (Call.entry nesting (.renderSectionOptional name) more g).outcome? =
            some (.ok reply) → reply = .flag true := by
          intro reply ok
          rw [Call.entry, Call.perform_output nesting (.renderSectionOptional name) g rfl] at ok
          change ((Run.bind _ (g.pass.sectionOutput name _)).drive more).outcome? = _ at ok
          rw [Pass.sectionOutput_found page found] at ok
          unfold Action.write Action.ofStep at ok
          split at ok
          · cases ok
            rfl
          · cases ok
        simpa only [Entry.AnswersFrom, Call.entry, found] using And.intro issues replies
  | _ => trivial

namespace Catalog.Chain

variable {catalog : Catalog} {config : Config} {depth : Nat} {body : Body}
  {input? : Option LayoutInput} {task task' : Task (Logged σ)} {earlier : List Turn} {final : Turn}
  {whole : Bool}

/-- Every pass of a chain is one that calls reach without a misuse, under the same configuration. -/
theorem reached (chain : catalog.Chain config depth body input? task earlier final task' whole) :
    ∀ turn ∈ earlier ++ [final],
      ∃ (depth : Nat) (task : Task (Logged σ)) (f : Frame (Logged σ)),
        Frame.Reached (catalog.nesting depth) { pass := .start config turn.input?, task }
          turn.history f := by
  induction chain with
  | unstarted body input? task =>
    intro turn member
    obtain rfl := List.mem_singleton.mp member
    exact ⟨0, task, _, .start⟩
  | last played calm =>
    intro turn member
    obtain rfl := List.mem_singleton.mp member
    exact ⟨_, _, _, played.reached .start calm⟩
  | next played calm chosen later ih =>
    intro turn member
    rcases List.mem_cons.mp member with rfl | member
    · exact ⟨_, _, _, played.reached .start calm⟩
    · exact ih turn member

theorem answers (chain : catalog.Chain config depth body input? task earlier final task' whole) :
    ∀ turn ∈ earlier ++ [final], ∀ e ∈ turn.history, e.AnswersFrom config turn.input? := by
  intro turn member e made
  obtain ⟨depth, task, f, reached⟩ := chain.reached turn member
  obtain ⟨before, g, call, more, past, rfl⟩ := reached.entries e made
  obtain ⟨⟨writer, bodyRendered, pass⟩, -, -⟩ := past.balanced (catalog.nesting_natural depth)
  exact call.entry_answers (congrArg Pass.config pass) (congrArg Pass.input? pass) more

theorem sound (chain : catalog.Chain config depth body input? task earlier final task' whole) :
    ∀ turn ∈ earlier ++ [final], turn.books.Sound := by
  intro turn member
  obtain ⟨depth, task, f, reached⟩ := chain.reached turn member
  exact (reached.balanced (catalog.nesting_natural depth)).sound

/-- Of all passes but the last nothing but empty texts is in the sink. -/
theorem delivered (chain : catalog.Chain config depth body input? task earlier final task' whole) :
    ∃ quiet, (∀ text ∈ quiet, text = "") ∧
      task'.sink.texts = task.sink.texts ++ quiet ++ final.books.direct := by
  induction chain with
  | unstarted body input? task => exact ⟨[], by simp, by simp [Turn.books, Books.ofHistory]⟩
  | @last depth body task turn f whole played calm =>
    have balanced := (played.reached .start calm).balanced (catalog.nesting_natural depth)
    refine ⟨[], by simp, ?_⟩
    rw [List.append_nil]
    exact balanced.log
  | @next depth body task task' turn final f name earlier whole played calm chosen later ih =>
    have balanced := (played.reached .start calm).balanced (catalog.nesting_natural depth)
    have layout : turn.books.layout? = some name :=
      (Books.ofHistory_layout? turn.history).trans chosen
    have silent : ∀ text ∈ turn.books.direct, text = "" :=
      balanced.sound.quiet fun unchosen => by cases layout.symm.trans unchosen
    have log : f.task.sink.texts = task.sink.texts ++ turn.books.direct := balanced.log
    obtain ⟨quiet, empty, texts⟩ := ih
    refine ⟨turn.books.direct ++ quiet, ?_, ?_⟩
    · intro text member
      rcases List.mem_append.mp member with here | there
      · exact silent text here
      · exact empty text there
    · rw [texts, log, List.append_assoc task.sink.texts]

end Catalog.Chain

namespace Blueprint

/-- A render that was dropped or cancelled was dropped somewhere in its execution, or before it. -/
theorem drive_renderCancellable (catalog : Catalog) (depth : Nat) (b : Blueprint)
    (allowed : Option Nat) (polls : Nat) (sink : σ) :
    let d := (b.renderCancellable catalog depth allowed).drive polls sink
    let execution := execute catalog depth b.config b.body none
    (d.state = sink ∧ d.outcome? ≠ some (.ok ())) ∨
      ∃ more, d.events = ((execution { sink }).drive more).events ∧
        d.state = ((execution { sink }).drive more).state.sink ∧
        (d.outcome? = some (.ok ()) → ((execution { sink }).drive more).outcome? = some (.ok ())) := by
  intro d execution
  obtain ⟨ran, -, events, state, shown⟩ :=
    b.drive_renderCancellable_ran catalog depth allowed polls sink
  have value : d.outcome? = some (.ok ()) →
      (execution.drive ran { sink }).outcome? = some (.ok ()) := by
    intro ok
    rcases shown with ⟨-, outcome⟩ | ⟨-, -, cancelled⟩
    · exact outcome ▸ ok
    · exact nomatch cancelled.symm.trans ok
  cases ran with
  | zero => exact .inl ⟨state, fun ok => nomatch value ok⟩
  | succ more => exact .inr ⟨more, events, state, value⟩

/-- The flush at the end of a render issues nothing. -/
theorem renderTo_texts (catalog : Catalog) (depth : Nat) (b : Blueprint) (allowed : Option Nat)
    (polls : Nat) (sink : Logged σ) :
    ((b.renderTo catalog depth allowed).drive polls sink).state.texts =
      ((b.renderCancellable catalog depth allowed).drive polls sink).state.texts := by
  let stopped := (b.renderCancellable catalog depth allowed).drive polls sink
  exact drive_renderTo_visits catalog depth b allowed polls sink
    (P := fun s => s.texts = stopped.state.texts) rfl fun _ => Logged.flush_visits stopped.state

/-- Whatever a render comes to, if no call of it was a misuse it is a chain of passes, all under
the configuration of the page. A layout is answered from what the pass before it handed on, and
from nothing else. If the render succeeds, the last pass was played to its end and the text that
was issued is what that pass wrote outside of sections; if not, the last pass is the one that was
cut short, and what it issued to the sink itself is all that is there. -/
theorem renderCancellable_chain (catalog : Catalog) (depth : Nat) (b : Blueprint)
    (allowed : Option Nat) (polls : Nat) (sink : Logged σ) :
    let d := (b.renderCancellable catalog depth allowed).drive polls sink
    (∀ event ∈ d.events, event.panicked = false) →
      ∃ earlier final task whole,
        catalog.Chain b.config depth b.body none { sink } earlier final task whole ∧
        d.state = task.sink ∧
        ((b.renderTo catalog depth allowed).drive polls sink).state.texts = task.sink.texts ∧
        (∀ turn ∈ earlier ++ [final], ∀ e ∈ turn.history,
          e.AnswersFrom b.config turn.input?) ∧
        (∃ quiet, (∀ text ∈ quiet, text = "") ∧
          task.sink.texts = sink.texts ++ quiet ++ final.books.direct) ∧
        (d.outcome? = some (.ok ()) →
          whole = true ∧ final.layout? = none ∧
            String.join task.sink.texts =
              String.join sink.texts ++ String.join final.books.outside) := by
  intro d calm
  have chained : ∃ earlier final task whole,
      catalog.Chain b.config depth b.body none { sink } earlier final task whole ∧
        d.state = task.sink ∧
        (d.outcome? = some (.ok ()) → whole = true ∧ final.layout? = none) := by
    rcases b.drive_renderCancellable catalog depth allowed polls sink with
      ⟨untouched, unfinished⟩ | ⟨more, events, state, outcome⟩
    · cases depth with
      | zero =>
        exact ⟨[], _, _, false, .unstarted b.body none _, untouched,
          fun ok => absurd ok unfinished⟩
      | succ depth =>
        let turn : Turn := { input? := none, history := [] }
        let start : Frame (Logged σ) := { pass := .start b.config none, task := { sink } }
        have unplayed : Step.Played (catalog.nesting depth) b.body.steps start turn.history start
          false := .stop b.body.steps start
        have chain : catalog.Chain b.config (depth + 1) b.body turn.input? start.task [] turn
            start.task false := .last unplayed (by simp [turn])
        exact ⟨[], turn, start.task, false, chain, untouched, fun ok => absurd ok unfinished⟩
    · obtain ⟨earlier, final, whole, chain, complete⟩ :=
        execute_chain catalog b.config depth b.body none { sink } more
          fun event seen => calm event (events ▸ seen)
      exact ⟨earlier, final, _, whole, chain, state, fun ok => complete (outcome ok)⟩
  obtain ⟨earlier, final, task, whole, chain, state, complete⟩ := chained
  have texts := chain.delivered
  refine ⟨earlier, final, task, whole, chain, state, ?_, chain.answers, texts, fun ok => ?_⟩
  · rw [renderTo_texts]
    exact congrArg Logged.texts state
  · obtain ⟨all, unchosen⟩ := complete ok
    obtain ⟨quiet, empty, issued⟩ := texts
    have layout : final.books.layout? = none :=
      (Books.ofHistory_layout? final.history).trans unchosen
    have direct : final.books.outside = final.books.direct :=
      (chain.sound final (by simp)).undivided layout
    refine ⟨all, unchosen, ?_⟩
    rw [issued, direct, String.join_append, String.join_append, join_eq_empty empty,
      String.append_empty]

/-- A page with a title, which chooses a layout. -/
def titledPage : Blueprint :=
  { body := { name := "page", steps := [{ call := .setLayout "frame" },
      { call := .beginSection "title" }, { call := .literal "T" }, { call := .endSection },
      { call := .literal "B" }] } }

/-- A layout that renders the title once and the body twice. -/
def titleFrame : Blueprint :=
  { body := { name := "frame", steps := [{ call := .renderSection "title" },
      { call := .literal ": " }, { call := .renderBody }, { call := .renderBody }] } }

theorem renderCancellable_chain_titledPage :
    let d := (titledPage.renderCancellable (fun _ => titleFrame) 2 none).drive 1
      ({ sink := {} } : Logged TextBuffer)
    (∀ event ∈ d.events, event.panicked = false) ∧ d.outcome? = some (.ok ()) ∧
      ∃ earlier final task whole,
        Catalog.Chain (fun _ => titleFrame) titledPage.config 2 titledPage.body none
          { sink := ({ sink := {} } : Logged TextBuffer) } earlier final task whole ∧
        d.state = task.sink ∧ final.layout? = none ∧
        String.join final.books.outside = "T: BB" := by
  have calm : ∀ event ∈ ((titledPage.renderCancellable (fun _ => titleFrame) 2 none).drive 1
      ({ sink := {} } : Logged TextBuffer)).events, event.panicked = false := by
    decide +kernel
  have ok : ((titledPage.renderCancellable (fun _ => titleFrame) 2 none).drive 1
      ({ sink := {} } : Logged TextBuffer)).outcome? = some (.ok ()) := by
    decide +kernel
  have shown : String.join ((titledPage.renderCancellable (fun _ => titleFrame) 2 none).drive 1
      ({ sink := {} } : Logged TextBuffer)).state.texts = "T: BB" := by
    decide +kernel
  obtain ⟨earlier, final, task, whole, chain, state, -, -, -, complete⟩ :=
    titledPage.renderCancellable_chain (fun _ => titleFrame) 2 none 1
      ({ sink := {} } : Logged TextBuffer) calm
  obtain ⟨-, unchosen, delivered⟩ := complete ok
  rw [state] at shown
  rw [shown, String.join_nil, String.empty_append] at delivered
  exact ⟨calm, ok, earlier, final, task, whole, chain, state, unchosen, delivered.symm⟩

end Blueprint

end Templating
