import Templating.Proofs.Places
import Templating.Proofs.Retention

/-!
# Where a text of a pass stands

`Frame.Keeps` says of a text that it is in the sink already, or stands at some place of the pass. A
layout that renders a text of its page brings it from the place where the page wrote it to the place
where it writes itself (`Frame.Keeps.of_source`), and there it stays whatever the pass does then,
unless the capture of the body is taken away (`Frame.Leads.keeps`). When the pass is finished the
next one finds it there.
-/

namespace Templating

variable {σ : Type}

/-- The text stands in the pass at this place: in a capture, or in the section when it is closed. -/
def Pass.Stands (text : String) (place : Place) (p : Pass) : Prop :=
  (∃ c ∈ p.captures, c.kind = place.kind ∧ Occurs text c.text) ∨
    ∃ name whole, place = .inside name ∧ p.sections.lookup name = some whole ∧ Occurs text whole

namespace Pass.Stands

variable {text : String} {place : Place} {p p' : Pass}

theorem mono (stands : p.Stands text place) (captures : ∀ c ∈ p.captures, c ∈ p'.captures)
    (sections : p'.sections = p.sections) : p'.Stands text place := by
  rcases stands with ⟨c, member, found⟩ | closed
  · exact .inl ⟨c, captures c member, found⟩
  · exact .inr (sections ▸ closed)

theorem grown (stands : p.Stands text place) (grown : p.Grown p') : p'.Stands text place := by
  rcases stands with ⟨c, member, kind, occurs⟩ | closed
  · obtain ⟨c', member', sameKind, more, longer⟩ := grown.captures c member
    exact .inl ⟨c', member', sameKind.trans kind, longer ▸ occurs.append_left more⟩
  · exact .inr (grown.sections ▸ closed)

end Pass.Stands

variable [Destination σ] {nesting : Nesting}

/-- What writing keeps of the sink every call keeps. -/
theorem Call.drive_sink (natural : nesting.Natural) {Q : σ → Prop} (kept : Logged.Kept fun _ => Q)
    (call : Call) (more : Nat) (f : Frame σ) (here : Q f.task.sink) :
    Q ((call.perform nesting f).drive more).state.task.sink := by
  by_cases plain : call.arranges = false
  · exact (call.drive_grown natural kept more f plain here).2
  · have silent : call.writes = false := by
      cases call with
      | setLayout _ | beginSection _ | endSection => rfl
      | _ => exact absurd rfl plain
    have same := (call.perform_sink nesting f silent).drive more
    exact same ▸ here

theorem Frame.Leads.sink {f f' : Frame σ} {history : List Entry}
    (leads : Frame.Leads nesting f history f') (natural : nesting.Natural) {Q : σ → Prop}
    (kept : Logged.Kept fun _ => Q) (here : Q f.task.sink) : Q f'.task.sink := by
  induction leads with
  | nil f => exact here
  | call call more later ih => exact ih (call.drive_sink natural kept more _ here)

namespace Pass.Stands

variable {text : String} {place : Place} {config : Config} {input? : Option LayoutInput}
  {history : List Entry} {f : Frame σ}

/-- A section that is closed keeps what was written in it, and leaves what stands elsewhere. -/
theorem endSection (stands : f.pass.Stands text place) (agrees : f.Agrees config input? history)
    (more : Nat)
    (stays : place = .outside → f.pass.layout? ≠ none →
      ¬ (Call.endSection.entry nesting more f).uncaptures) :
    ((Call.endSection.perform nesting f).drive more).state.pass.Stands text place := by
  obtain ⟨rest, kinds, bodied⟩ := agrees.kinds
  rcases Call.endSection_cases more f with
    ⟨c, captures, name, captured, kind, -, made⟩ |
      ⟨lost, -, same | ⟨c, captures, captured, kind, made⟩⟩
  · rw [made]
    have opened : Place.ofHistory history = .inside name :=
      Place.eq_inside ((agrees.innermost captured).symm.trans kind)
    rcases stands with ⟨c', member, here, occurs⟩ | ⟨name', whole, rfl, found, occurs⟩
    · rw [captured] at member
      rcases List.mem_cons.mp member with rfl | below
      · obtain rfl := Place.eq_inside (here.symm.trans kind)
        exact .inr ⟨name, c'.text, rfl, List.lookup_cons_self, occurs⟩
      · exact .inl ⟨c', below, here, occurs⟩
    · have other : (name' == name) = false := by
        refine beq_eq_false_iff_ne.mpr ?_
        rintro rfl
        exact nomatch found.symm.trans (agrees.fresh name' opened)
      refine .inr ⟨name', whole, rfl, ?_, occurs⟩
      rw [List.lookup_cons, other]
      exact found
  · rw [same]
    exact stands
  · cases place with
    | inside name' =>
      rw [made]
      rcases stands with ⟨c', member, here, occurs⟩ | closed
      · rw [captured] at member
        rcases List.mem_cons.mp member with rfl | below
        · exact nomatch here.symm.trans kind
        · exact .inl ⟨c', below, here, occurs⟩
      · exact .inr closed
    | outside =>
      have outside : Place.ofHistory history = .outside :=
        Place.eq_outside ((agrees.innermost captured).symm.trans kind)
      rw [captured, outside] at kinds
      rcases bodied with rfl | ⟨-, chosen⟩
      · cases kinds
      · exact absurd lost (stays rfl chosen)

/-- Whatever call comes next, a text stays where it stands. -/
theorem step (stands : f.pass.Stands text place) (agrees : f.Agrees config input? history)
    (natural : nesting.Natural) (call : Call) (more : Nat)
    (stays : place = .outside → f.pass.layout? ≠ none →
      ¬ (call.entry nesting more f).uncaptures) :
    ((call.perform nesting f).drive more).state.pass.Stands text place := by
  by_cases plain : call.arranges = false
  · obtain ⟨captures, -, sections, -⟩ := call.prepare_keeps f.pass
    have prepared : (call.prepare f.pass).Stands text place :=
      stands.mono (fun c member => captures ▸ member) sections
    exact prepared.grown (call.drive_grown natural Logged.true_kept more f plain trivial).1
  · cases call with
    | setLayout name =>
      rcases Call.setLayout_cases name more f with ⟨-, same⟩ | ⟨-, made⟩
      · rw [same]
        exact stands
      · rw [made]
        refine stands.mono (fun c member => ?_) rfl
        unfold Pass.choosing
        dsimp only
        split
        · exact member
        · exact List.mem_append_left _ member
    | beginSection name =>
      rcases Call.beginSection_cases name more f with ⟨-, same⟩ | ⟨-, -, -, made⟩
      · rw [same]
        exact stands
      · rw [made]
        exact stands.mono (fun c member => List.mem_cons_of_mem _ member) rfl
    | endSection => exact stands.endSection agrees more stays
    | _ => exact absurd rfl plain

end Pass.Stands

/-- The text is in the sink already, or stands in the pass at this place. -/
def Frame.Keeps (holds : String → σ → Prop) (text : String) (place : Place) (f : Frame σ) : Prop :=
  holds text f.task.sink ∨ f.pass.Stands text place

namespace Frame

variable {reached : σ → Prop} {holds shown : String → σ → Prop} {config : Config}
  {input? : Option LayoutInput} {before history : List Entry} {f f' : Frame σ} {text : String}
  {place : Place}

/-- A text stays where it is to the end of the pass, unless its capture is taken away. -/
theorem Leads.keeps (leads : Frame.Leads nesting f history f') (natural : nesting.Natural)
    (kept : Logged.Kept fun _ => holds text) (agrees : f.Agrees config input? before)
    (stays : place = .outside → (before ++ history).filterMap Entry.layout? ≠ [] →
      ∀ e ∈ history, ¬ e.uncaptures)
    (keeps : f.Keeps holds text place) : f'.Keeps holds text place := by
  induction leads generalizing before with
  | nil f => exact keeps
  | @call f f' history call more later ih =>
    refine ih (agrees.step natural call more) ?_ ?_
    · intro outside chosen e member
      exact stays outside (by simpa using chosen) e (List.mem_cons_of_mem _ member)
    · rcases keeps with sent | stands
      · exact .inl (call.drive_sink natural kept more f sent)
      · refine .inr (stands.step agrees natural call more fun outside chosen => ?_)
        refine stays outside ?_ _ List.mem_cons_self
        intro never
        rw [List.filterMap_append, List.append_eq_nil_iff] at never
        rw [agrees.layout, never.1] at chosen
        exact chosen rfl

end Frame

/-- A call that renders what the page wrote at a place, and succeeds, has written all of it. -/
theorem Call.returns_source {call : Call} {source : Place} (fetches : call.source? = some source)
    {f f' : Frame σ} {input : LayoutInput} (page : f.pass.input? = some input) {whole : String}
    (found : input.text? source = some whole) {reply : Reply}
    (returned : (call.perform nesting f).Returns reply f') :
    (Action.write whole { f with pass := call.prepare f.pass }).Returns () f' := by
  cases call with
  | renderBody =>
    cases fetches
    cases found
    rw [Call.perform_output nesting .renderBody f rfl] at returned
    simp only [Call.output, page] at returned
    exact Action.returns_unit returned
  | renderSection name =>
    cases fetches
    rw [Call.perform_output nesting (.renderSection name) f rfl] at returned
    obtain ⟨defined, g, rendered, checked⟩ :=
      (Run.returns_bind _ _ () f').mp (Action.returns_unit returned)
    rw [Pass.sectionOutput_found page found] at rendered
    obtain ⟨_, g', written, ends⟩ := (Run.returns_bind _ _ defined g).mp rendered
    obtain ⟨answer, rfl⟩ := (Run.returns_done _ _ _ _).mp ends
    cases answer
    obtain ⟨-, rfl⟩ := (Run.returns_done _ _ _ _).mp checked
    exact written
  | renderSectionOptional name =>
    cases fetches
    rw [Call.perform_output nesting (.renderSectionOptional name) f rfl] at returned
    obtain ⟨defined, g, rendered, answered⟩ := (Run.returns_bind _ _ reply f').mp returned
    obtain ⟨-, rfl⟩ := (Run.returns_done _ _ _ _).mp answered
    rw [Pass.sectionOutput_found page found] at rendered
    obtain ⟨_, g', written, ends⟩ := (Run.returns_bind _ _ defined g).mp rendered
    obtain ⟨-, rfl⟩ := (Run.returns_done _ _ _ _).mp ends
    exact written
  | _ => cases fetches

namespace Frame.Keeps

variable {reached : σ → Prop} {holds shown : String → σ → Prop} {config : Config}
  {input? : Option LayoutInput} {history : List Entry} {f f' : Frame σ} {text whole : String}
  {place : Place}

/-- A text that is written stands in the innermost capture, or the sink has taken it. -/
theorem of_write (retains : Retains reached holds shown) (here : reached f.task.sink)
    (innermost : ∀ c captures, f.pass.captures = c :: captures → c.kind = place.kind)
    (written : (Action.write text f).Returns () f') : f'.Keeps holds text place := by
  cases captured : f.pass.captures with
  | nil =>
    rw [Frame.write_direct f text captured] at written
    obtain ⟨s, sent, rfl⟩ := (Run.returns_recast _ _ _ _).mp written
    refine .inl (retains.write text f.task.sink s here ?_)
    unfold Action.write Action.ofStep at sent
    split at sent
    · next took =>
      obtain ⟨-, rfl⟩ := (Run.returns_done _ _ _ _).mp sent
      exact took
    · cases sent.1
  | cons c captures =>
    rw [Frame.write_captured f text (by simp [captured])] at written
    obtain ⟨-, rfl⟩ := (Run.returns_done _ _ _ _).mp written
    have kind := innermost c captures captured
    have took : { c with text := c.text ++ text } ∈ (f.took text f.task.sink).pass.captures := by
      simp [Frame.took, Pass.take, captured]
    exact .inr (.inl ⟨_, took, kind, (Occurs.refl text).append_right c.text⟩)

omit [Destination σ] in
theorem of_occurs [Destination σ] (retains : Retains reached holds shown)
    (occurs : Occurs text whole) (keeps : f.Keeps holds whole place) :
    f.Keeps holds text place := by
  rcases keeps with sent | ⟨c, member, kind, inside⟩ | ⟨name, closed, same, found, inside⟩
  · exact .inl (retains.part text whole _ occurs sent)
  · exact .inr (.inl ⟨c, member, kind, occurs.trans inside⟩)
  · exact .inr (.inr ⟨name, closed, same, found, occurs.trans inside⟩)

/-- A call that succeeds brings a text from where the page wrote it to where the pass writes. -/
theorem of_source (retains : Retains reached holds shown) (here : reached f.task.sink)
    (agrees : f.Agrees config input? history) {call : Call} {source : Place}
    (fetches : call.source? = some source) {input : LayoutInput}
    (page : f.pass.input? = some input) (found : input.text? source = some whole)
    (occurs : Occurs text whole) {reply : Reply}
    (returned : (call.perform nesting f).Returns reply f') :
    f'.Keeps holds text (Place.ofHistory history) := by
  have written := call.returns_source fetches page found returned
  refine of_occurs retains occurs
    (of_write (f := { f with pass := call.prepare f.pass }) retains here ?_ written)
  intro c captures captured
  exact agrees.innermost ((call.prepare_keeps f.pass).1.symm.trans captured)

omit [Destination σ] in
/-- When a pass is finished, the layout that runs next finds the text where the pass kept it. -/
theorem handedOn (agrees : f.Agrees config input? history)
    (finished : f.pass.unfinished? = none) {next : LayoutCall} (chosen : f.pass.next? = some next)
    (keeps : f.Keeps holds text place) :
    holds text f.task.sink ∨
      ∃ whole, next.input.text? place = some whole ∧ Occurs text whole := by
  have unopened := Pass.openSection?_of_finished finished
  obtain ⟨layout, -, rfl⟩ := Option.map_eq_some_iff.mp chosen
  rcases keeps with sent | ⟨c, member, kind, occurs⟩ | ⟨name, whole, rfl, found, occurs⟩
  · exact .inl sent
  · obtain ⟨rest, kinds, bodied⟩ := agrees.kinds
    rw [agrees.outside unopened] at kinds
    rcases bodied with rfl | ⟨rfl, -⟩
    · simp [List.map_eq_nil_iff.mp kinds] at member
    · obtain ⟨c', captures, bodied⟩ := List.map_eq_singleton_iff.mp kinds
      obtain rfl : c = c' := by simpa [captures] using member
      obtain rfl := Place.eq_outside (kind.symm.trans bodied)
      refine .inr ⟨c.text, ?_, occurs⟩
      obtain ⟨_, text⟩ := c
      cases bodied
      simp [LayoutInput.text?, Pass.bodyText, captures]
  · exact .inr ⟨whole, found, occurs⟩

omit [Destination σ] in
/-- A pass that chose no layout leaves a text outside of sections nowhere but in the sink. -/
theorem delivered (agrees : f.Agrees config input? history)
    (unchosen : f.pass.next? = none) (keeps : f.Keeps holds text .outside) :
    holds text f.task.sink := by
  have layout : f.pass.layout? = none := Option.map_eq_none_iff.mp unchosen
  obtain ⟨rest, kinds, bodied⟩ := agrees.kinds
  rcases keeps with sent | ⟨c, member, kind, occurs⟩ | ⟨name, whole, outside, -⟩
  · exact sent
  · have here : c.kind ∈ f.pass.captures.map Capture.kind := List.mem_map_of_mem member
    rcases bodied with rfl | ⟨-, chosen⟩
    · rw [kinds, kind] at here
      cases place : Place.ofHistory history <;> simp [place, Place.kinds, Place.kind] at here
    · exact absurd layout chosen
  · cases outside

end Frame.Keeps

end Templating
