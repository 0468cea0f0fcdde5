import Templating.Proofs.CaughtErrors
import Templating.Proofs.Places

/-!
# Calls that do not fit

Five calls of a body fit only some states of its pass: an attribute is opened where none is open,
receives fragments and is closed where one is, and so is a section. A call that does not fit is a
misuse, and the body may go on after it. Four of them are refused for what they find. The fifth, the
end of a section, takes the innermost capture before it looks at it; where no section is open that
is the body, if a layout was chosen, and what was captured of the body is gone
(`Frame.Leads.misfit_spares_iff`).
-/

namespace Templating

variable {σ : Type}

/-- The misuse that the call is in this pass because it does not fit there. -/
def Call.misfit? (p : Pass) : Call → Option Misuse
  | beginAttribute head =>
    p.writer.pending.map fun a => .attributeStillOpen head.name a.head.name
  | attributeValue _ _ =>
    if p.writer.pending.isNone then some .fragmentWithoutAttribute else none
  | endAttribute => if p.writer.pending.isNone then some .endWithoutAttribute else none
  | beginSection name => p.openSection?.map fun openName => .sectionStillOpen name openName
  | endSection => if p.openSection?.isNone then some .endWithoutSection else none
  | _ => none

/-- If the call has a value to render, the value renders. Only an attribute renders its values
before it looks whether it is open. -/
def Call.Renders (nesting : Nesting) (f : Frame σ) (call : Call) : Prop :=
  ∀ head value, call = .attributeValue head value →
    ∃ text, (value.resolve nesting f).await.outcome? = some (.ok text)

/-- Whether the body is captured after a call, if this says whether it was before. -/
def Entry.holdsBody (held : Bool) (e : Entry) : Bool :=
  match e.call with
  | .setLayout _ => held || e.succeeded
  | .endSection => held && !e.panicked
  | _ => held

/-- After these calls the body is captured: a layout was chosen, and since then no section was
ended that was not open. -/
def Entry.holdBody (history : List Entry) : Bool :=
  history.foldl Entry.holdsBody false

namespace Pass

variable {p : Pass} {c : Capture} {name : String}

theorem openSection?_of_section {rest : List Capture} (captured : p.captures = c :: rest)
    (kind : c.kind = .section name) : p.openSection? = some name := by
  simp [openSection?, captured, kind]

/-- Where no section is open, ending one takes the innermost capture, whatever it holds. -/
theorem endSection_of_unopened (unopened : p.openSection? = none) :
    p.endSection = (.misused .endWithoutSection, { p with captures := p.captures.tail }) := by
  unfold endSection
  cases captured : p.captures with
  | nil =>
    obtain ⟨⟩ := p
    cases captured
    rfl
  | cons c rest =>
    cases kind : c.kind with
    | «section» name => cases unopened.symm.trans (openSection?_of_section captured kind)
    | body => simp [kind]

/-- The body is captured below the section that is open. -/
theorem capturesBody_of_section {q : Pass} (captured : p.captures = c :: q.captures)
    (kind : c.kind = .section name) : p.capturesBody = q.capturesBody := by
  rw [capturesBody, capturesBody, captured]
  cases q.captures with
  | nil => simp [kind]
  | cons c' rest => rw [List.getLast?_cons_cons]

theorem capturesBody_choosing (p : Pass) (name : String) :
    (p.choosing name).capturesBody = true := by
  rw [capturesBody_eq, choosing]
  cases captures : p.capturesBody with
  | true => exact (capturesBody_eq p).symm.trans captures
  | false => simp

end Pass

namespace Frame

variable {config : Config} {input? : Option LayoutInput} {history : List Entry} {f : Frame σ}

/-- Where no section is open, nothing but the body can be captured. -/
theorem Agrees.captures_of_unopened (agrees : f.Agrees config input? history)
    (unopened : f.pass.openSection? = none) :
    f.pass.captures = [] ∧ f.pass.capturesBody = false ∨
      (∃ text, f.pass.captures = [{ kind := .body, text }]) ∧ f.pass.capturesBody = true ∧
        f.pass.layout? ≠ none := by
  obtain ⟨rest, kinds, bodied⟩ := agrees.kinds
  rw [agrees.outside unopened] at kinds
  rw [Pass.capturesBody_eq, kinds]
  rcases bodied with rfl | ⟨rfl, chosen⟩
  · exact .inl ⟨List.map_eq_nil_iff.mp kinds, rfl⟩
  · obtain ⟨⟨kind, text⟩, alone, rfl⟩ := List.map_eq_singleton_iff.mp kinds
    exact .inr ⟨⟨text, alone⟩, rfl, chosen⟩

/-- Ending a section that is not open leaves no capture of the body; ending one that is leaves that
capture as it was. -/
theorem Agrees.endSection_cases (agrees : f.Agrees config input? history) :
    f.pass.endSection.1 = .misused .endWithoutSection ∧
        f.pass.endSection.2.capturesBody = false ∨
      f.pass.endSection.1 = .ok () ∧
        f.pass.endSection.2.capturesBody = f.pass.capturesBody := by
  obtain ⟨rest, kinds, bodied⟩ := agrees.kinds
  cases place : Place.ofHistory history with
  | outside =>
    have unopened : f.pass.openSection? = none := by
      rw [Pass.openSection?_eq, kinds, place]
      rcases bodied with rfl | ⟨rfl, -⟩ <;> rfl
    rw [Pass.endSection_of_unopened unopened]
    refine .inl ⟨rfl, ?_⟩
    rcases agrees.captures_of_unopened unopened with ⟨none, -⟩ | ⟨⟨text, alone⟩, -⟩
    · simp [Pass.capturesBody, none]
    · simp [Pass.capturesBody, alone]
  | inside name =>
    rw [place] at kinds
    obtain ⟨c, captures, captured, kind, -⟩ := List.map_eq_cons_iff.mp kinds
    have closed : f.pass.endSection =
        (.ok (), { f.pass with captures, sections := (name, c.text) :: f.pass.sections }) := by
      simp [Pass.endSection, captured, kind]
    rw [closed]
    exact .inr ⟨rfl, (Pass.capturesBody_of_section captured kind).symm⟩

variable [Destination σ] {nesting : Nesting}

/-- What one call does to the capture of the body. -/
theorem Agrees.capturesBody_step (agrees : f.Agrees config input? history)
    (natural : nesting.Natural) (call : Call) (more : Nat) :
    ((call.perform nesting f).drive more).state.pass.capturesBody =
      (call.entry nesting more f).holdsBody f.pass.capturesBody := by
  by_cases plain : call.arranges = false
  · have grown := (call.drive_grown natural Logged.true_kept more f plain trivial).1
    obtain ⟨captures, -, -, -⟩ := call.prepare_keeps f.pass
    have keeps : (call.entry nesting more f).holdsBody f.pass.capturesBody =
        f.pass.capturesBody := by
      cases call <;> first | rfl | cases plain
    rw [keeps, Pass.capturesBody_eq, Pass.capturesBody_eq, grown.kinds, captures]
  · cases call with
    | setLayout name =>
      have holds : ((Call.setLayout name).entry nesting more f).holdsBody f.pass.capturesBody =
          (f.pass.capturesBody || ((Call.setLayout name).entry nesting more f).succeeded) := rfl
      rcases Call.setLayout_cases name more f with ⟨fails, same⟩ | ⟨succeeds, made⟩
      · rw [holds, fails, same, Bool.or_false]
      · rw [holds, succeeds, made, Pass.capturesBody_choosing, Bool.or_true]
    | beginSection name =>
      rcases Call.beginSection_cases name more f with ⟨-, same⟩ | ⟨-, -, -, made⟩
      · rw [same]
        rfl
      · rw [made]
        exact Pass.capturesBody_of_section rfl rfl
    | endSection =>
      have holds : (Call.endSection.entry nesting more f).holdsBody f.pass.capturesBody =
          (f.pass.capturesBody && !(Call.endSection.entry nesting more f).panicked) := rfl
      rw [holds, Call.entry, Call.endSection_unit]
      rcases agrees.endSection_cases with ⟨misused, lost⟩ | ⟨closed, kept⟩
      · rw [Run.drive, misused, lost]
        exact (Bool.and_false _).symm
      · rw [Run.drive, closed, kept]
        exact (Bool.and_true _).symm
    | _ => exact absurd rfl plain

/-- The body is captured after the calls of a pass if these hold it. -/
theorem Leads.capturesBody_eq {before : List Entry} {f' : Frame σ}
    (leads : Frame.Leads nesting f history f') (natural : nesting.Natural)
    (agrees : f.Agrees config input? before) :
    f'.pass.capturesBody = history.foldl Entry.holdsBody f.pass.capturesBody := by
  induction leads generalizing before with
  | nil f => rfl
  | @call f f' history call more later ih =>
    rw [List.foldl_cons, ← agrees.capturesBody_step natural call more]
    exact ih (agrees.step natural call more)

end Frame

namespace Call

/-- What is missing where the call does not fit. -/
theorem missing_of_misfit {α : Type} {x? : Option α} {misuse m : Misuse}
    (misfit : (if x?.isNone then some misuse else none) = some m) : x? = none ∧ misuse = m := by
  obtain ⟨missing, same⟩ := Option.ite_none_right_eq_some.mp misfit
  exact ⟨Option.isNone_iff_eq_none.mp missing, Option.some.inj same⟩

variable [Destination σ] {nesting : Nesting} {f : Frame σ} {m : Misuse}

/-- A call that does not fit is refused for what it finds, unless it is the end of a section; the
value of an attribute is rendered before. -/
theorem perform_misfit {call : Call} (misfit : call.misfit? f.pass = some m)
    (other : call ≠ .endSection) :
    ∃ o : Outcome Unit, (call.perform nesting f).silent = .done (o.bind fun _ => .misused m) f ∧
      (call.Renders nesting f → o = .ok ()) := by
  cases call with
  | beginAttribute head =>
    refine ⟨.ok (), ?_, fun _ => rfl⟩
    obtain ⟨a, opened, rfl⟩ := Option.map_eq_some_iff.mp misfit
    show ((Frame.changeWriter (·.start head)).unit f).silent = _
    rw [Frame.changeWriter_unit]
    simp only [AttributeWriter.start, opened]
    rfl
  | attributeValue head value =>
    obtain ⟨closed, rfl⟩ := missing_of_misfit misfit
    obtain ⟨o, b, text, -, resolved, -⟩ := value.resolve_output nesting .raw f
    refine ⟨o, ?_, fun renders => ?_⟩
    · show ((Frame.attributeValue nesting head value).unit f).silent = _
      rw [Frame.attributeValue_unit, Run.silent_bind, resolved]
      cases o with
      | ok _ =>
        show ((Frame.changeWriter (·.add { head, value := text })).unit f).silent = _
        rw [Frame.changeWriter_unit]
        simp only [AttributeWriter.add, closed]
        rfl
      | _ => rfl
    · obtain ⟨rendered, ok⟩ := renders head value rfl
      rw [← Run.silent_outcome, resolved] at ok
      cases o with
      | ok _ => rfl
      | _ => cases ok
  | endAttribute =>
    obtain ⟨closed, rfl⟩ := missing_of_misfit misfit
    refine ⟨.ok (), ?_, fun _ => rfl⟩
    obtain ⟨⟨config, ⟨strict, pending⟩, captures, layout?, sections, input?, written⟩, task⟩ := f
    cases closed
    rfl
  | beginSection name =>
    refine ⟨.ok (), ?_, fun _ => rfl⟩
    obtain ⟨openName, opened, rfl⟩ := Option.map_eq_some_iff.mp misfit
    show ((Frame.change (·.beginSection name)).unit f).silent = _
    rw [Frame.change_unit]
    simp only [Pass.beginSection, opened]
    rfl
  | endSection => exact absurd rfl other
  | _ => cases misfit

end Call

namespace Frame.Leads

/-- At any point of a pass, after misuses too, a call that does not fit is a misuse at once, as soon
as its value is rendered. It leaves the frame as it was, with all that is captured, the sections, the
layout, what a layout may render, the open attribute and the sink, exactly if it is not the end of a
section while the body is captured. That call takes the body away, with the text that was captured
of it. The layout stays chosen, but what the pass writes next goes to the sink. -/
theorem misfit_spares_iff [Destination σ] (catalog : Catalog) (depth : Nat) {config : Config}
    {input? : Option LayoutInput} {task : Task σ} {history : List Entry} {f : Frame σ}
    (unrendered : ∀ input, input? = some input → input.bodyRendered = false)
    (leads : Frame.Leads (catalog.nesting depth) { pass := .start config input?, task } history f)
    {call : Call} {m : Misuse} (misfit : call.misfit? f.pass = some m) (more : Nat) :
    let d := (call.perform (catalog.nesting depth) f).drive more
    let uncaptures := call = .endSection ∧ Entry.holdBody history = true
    (call.Renders (catalog.nesting depth) f → d.outcome? = some (.misused m)) ∧
      d.outcome? ≠ none ∧
      (d.state = f ↔ ¬ uncaptures) ∧
      (uncaptures → ∃ text, f.pass.captures = [{ kind := .body, text }] ∧ f.pass.layout? ≠ none ∧
        d.state = { f with pass := { f.pass with captures := [] } } ∧
        ∀ next, Action.write next d.state =
          (Action.write next f.task.sink).recast (d.state.took next) fun o _ => o) := by
  intro d uncaptures
  have natural : (catalog.nesting depth).Natural := catalog.nesting_natural depth
  have begun : Frame.Agrees config input? [] { pass := .start config input?, task } :=
    .start config task unrendered
  have agrees : f.Agrees config input? history := leads.agrees natural begun
  have held : f.pass.capturesBody = Entry.holdBody history :=
    leads.capturesBody_eq natural begun
  by_cases other : call = .endSection
  · subst other
    obtain ⟨unopened, rfl⟩ := Call.missing_of_misfit misfit
    have made : d = (Run.done (.misused .endWithoutSection)
        { f with pass := { f.pass with captures := f.pass.captures.tail } } : Run _ _).drive more := by
      unfold d
      rw [Call.endSection_unit, Pass.endSection_of_unopened unopened]
      rfl
    rw [made]
    refine ⟨fun _ => rfl, Option.some_ne_none _, ?_⟩
    rcases agrees.captures_of_unopened unopened with
      ⟨empty, unheld⟩ | ⟨⟨text, alone⟩, holds, chosen⟩
    · have kept : ¬ uncaptures := fun lost => nomatch unheld.symm.trans (held.trans lost.2)
      refine ⟨iff_of_true ?_ kept, fun lost => absurd lost kept⟩
      obtain ⟨⟨config, writer, captures, layout?, sections, input?, written⟩, task⟩ := f
      cases empty
      rfl
    · have lost : uncaptures := ⟨rfl, held.symm.trans holds⟩
      have tail : f.pass.captures.tail = [] := by rw [alone, List.tail_cons]
      rw [tail]
      refine ⟨iff_of_false (fun same => ?_) (not_not_intro lost), fun _ =>
        ⟨text, alone, chosen, rfl, fun next => Frame.write_direct _ next rfl⟩⟩
      have gone : [] = f.pass.captures := congrArg (·.pass.captures) same
      cases gone.trans alone
  · obtain ⟨o, ended, renders⟩ := Call.perform_misfit misfit other
    obtain ⟨state, outcome, -⟩ := Run.drive_of_silent (q := .done _ f) ended more
    have ended : d.outcome? = some (o.bind fun _ => .misused m) := outcome
    have stays : d.state = f := state
    refine ⟨fun rendered => ?_, ?_, iff_of_true stays fun lost => other lost.1,
      fun lost => absurd lost.1 other⟩
    · rw [ended, renders rendered]
      rfl
    · rw [ended]
      exact Option.some_ne_none _

/-- After a misuse that was caught, a page chooses a layout and writes in a section; then it begins
another section. -/
theorem misfit_spares_iff_menuPage :
    let nesting := Catalog.nesting (fun _ => { body := { name := "", steps := [] } }) 0
    let start : Frame TextBuffer := { pass := .start {} none, task := { sink := {} } }
    let call := Call.beginSection "other"
    ∃ history f, Frame.Leads nesting start history f ∧
      f.pass.captures = [{ kind := .section "menu", text := "m" }, { kind := .body, text := "B" }] ∧
      call.misfit? f.pass = some (.sectionStillOpen "other" "menu") ∧
      ((call.perform nesting f).drive 0).outcome? =
        some (.misused (.sectionStillOpen "other" "menu")) ∧
      ((call.perform nesting f).drive 0).state = f := by
  intro nesting start call
  obtain ⟨history, f, leads, captured, misfit⟩ : ∃ history f,
      Frame.Leads nesting start history f ∧
      f.pass.captures = [{ kind := .section "menu", text := "m" }, { kind := .body, text := "B" }] ∧
      call.misfit? f.pass = some (.sectionStillOpen "other" "menu") :=
    ⟨_, _, .call .endSection 0 <| .call (.setLayout "frame") 0 <| .call (.literal "B") 0 <|
      .call (.beginSection "menu") 0 <| .call (.literal "m") 0 <| .nil _,
      by decide +kernel, by decide +kernel⟩
  have unrendered : ∀ input, (none : Option LayoutInput) = some input →
      input.bodyRendered = false := nofun
  obtain ⟨misused, -, spared, -⟩ := misfit_spares_iff _ 0 unrendered leads misfit 0
  exact ⟨history, f, leads, captured, misfit, misused nofun, spared.mpr fun lost => nomatch lost.1⟩

end Frame.Leads

namespace Blueprint

/-- A page that chooses a layout, and between its two texts makes these calls. -/
def mismatchedPage (between : List Step) : Blueprint :=
  { body := { name := "page", steps := [{ call := .setLayout "frame" }, { call := .literal "B" }] ++
      between ++ [{ call := .literal "x" }] } }

/-- A layout that renders its page. -/
def mismatchedSite : Catalog := fun _ =>
  { body := { name := "frame", steps := [{ call := .renderBody }] } }

/-- The page ends a section that is not open and goes on. What it wrote before is lost, and what it
writes then is not captured. -/
theorem mismatchedPage_uncaptured :
    let rendered (between : List Step) :=
      (((mismatchedPage between).renderToBuffer mismatchedSite 2 none {}).drive 0).outcome?
    rendered [] = some (.ok "Bx") ∧
      rendered [{ call := .endSection, tolerant := true }] = some (.ok "x") := by
  decide +kernel

end Blueprint

end Templating
