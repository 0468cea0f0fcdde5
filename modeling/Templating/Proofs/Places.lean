import Templating.Proofs.ChosenLayouts

/-!
# Where a pass writes

A pass writes at a `Place`: outside of its sections, or inside the one that is open. A layout finds
each text that it may render by the place where the page wrote it, and writes it again at the place
where it is itself. `Frame.Agrees` says what the calls of a pass tell of its frame, whatever they
came to: misuses are included, one of which takes the capture of the body away.
-/

namespace Templating

variable {σ : Type}

/-- Where a pass writes: outside of its sections, or inside one of them. -/
inductive Place where
  | outside
  | inside (name : String)
  deriving DecidableEq, Repr

namespace Place

def kinds : Place → List CaptureKind
  | outside => []
  | inside name => [.section name]

/-- What is captured there, as long as it is. -/
def kind : Place → CaptureKind
  | outside => .body
  | inside name => .section name

theorem eq_inside {place : Place} {name : String} (same : place.kind = .section name) :
    place = inside name := by
  cases place with
  | outside => cases same
  | inside name' =>
    cases same
    rfl

theorem eq_outside {place : Place} (same : place.kind = .body) : place = outside := by
  cases place with
  | outside => rfl
  | inside name => cases same

/-- The place to write at after a call. -/
def after (place : Place) (e : Entry) : Place :=
  if e.succeeded then
    match e.call with
    | .beginSection name => inside name
    | .endSection => outside
    | _ => place
  else place

/-- The place to write at after these calls. -/
def ofHistory (history : List Entry) : Place :=
  history.foldl after outside

theorem ofHistory_snoc (history : List Entry) (e : Entry) :
    ofHistory (history ++ [e]) = (ofHistory history).after e :=
  List.foldl_append

end Place

/-- What a layout may render of what the page wrote at a place. -/
def LayoutInput.text? (input : LayoutInput) : Place → Option String
  | .outside => some input.body
  | .inside name => input.sections.lookup name

/-- The place whose text the call renders. -/
def Call.source? : Call → Option Place
  | renderBody => some .outside
  | renderSection name | renderSectionOptional name => some (.inside name)
  | _ => none

/-- There was no section to close. If the body was captured, the capture is gone. -/
def Entry.uncaptures (e : Entry) : Prop :=
  e.call = .endSection ∧ e.panicked = true

/-- The calls of the history, made one after the other, lead from one frame to the other. -/
inductive Frame.Leads [Destination σ] (nesting : Nesting) :
    Frame σ → List Entry → Frame σ → Prop
  | nil (f : Frame σ) : Leads nesting f [] f
  | call {f f' : Frame σ} {history : List Entry} (call : Call) (more : Nat)
      (later : Leads nesting ((call.perform nesting f).drive more).state history f') :
      Leads nesting f (call.entry nesting more f :: history) f'

theorem Frame.Leads.split [Destination σ] {nesting : Nesting} {f f' : Frame σ}
    {before later : List Entry} (leads : Frame.Leads nesting f (before ++ later) f') :
    ∃ g, Frame.Leads nesting f before g ∧ Frame.Leads nesting g later f' := by
  induction before generalizing f with
  | nil => exact ⟨f, .nil f, leads⟩
  | cons e before ih =>
    cases leads with
    | call call more rest =>
      obtain ⟨g, reached, onward⟩ := ih rest
      exact ⟨g, .call call more reached, onward⟩

/-- The pass `p'` is `p` with more text in the captures that are open. -/
structure Pass.Grown (p p' : Pass) : Prop where
  config : p'.config = p.config
  layout : p'.layout? = p.layout?
  sections : p'.sections = p.sections
  input : p'.input? = p.input?
  kinds : p'.captures.map Capture.kind = p.captures.map Capture.kind
  captures : ∀ c ∈ p.captures, ∃ c' ∈ p'.captures,
    c'.kind = c.kind ∧ ∃ more, c'.text = c.text ++ more

namespace Pass

theorem Grown.of_captures {p p' : Pass} (config : p'.config = p.config)
    (layout : p'.layout? = p.layout?) (sections : p'.sections = p.sections)
    (input : p'.input? = p.input?) (captures : p'.captures = p.captures) : p.Grown p' := by
  refine ⟨config, layout, sections, input, by rw [captures], fun c member => ?_⟩
  exact ⟨c, captures ▸ member, rfl, "", String.append_empty.symm⟩

theorem takeAll_grown (p : Pass) (texts : List String) : p.Grown (p.takeAll texts) := by
  cases captured : p.captures with
  | nil =>
    rw [p.takeAll_direct texts captured]
    exact .of_captures rfl rfl rfl rfl rfl
  | cons c rest =>
    rw [p.takeAll_captured texts captured]
    refine ⟨rfl, rfl, rfl, rfl, by simp [captured], fun c' member => ?_⟩
    rw [captured] at member
    rcases List.mem_cons.mp member with rfl | below
    · exact ⟨_, List.mem_cons_self, rfl, _, rfl⟩
    · exact ⟨c', List.mem_cons_of_mem _ below, rfl, "", String.append_empty.symm⟩

end Pass

theorem Pass.capturesBody_eq (p : Pass) :
    p.capturesBody = ((p.captures.map Capture.kind).getLast? == some .body) := by
  unfold Pass.capturesBody
  rw [List.getLast?_map]
  cases p.captures.getLast? <;> rfl

theorem Pass.openSection?_eq (p : Pass) :
    p.openSection? = (p.captures.map Capture.kind).findSome? fun kind =>
      match kind with
      | .section name => some name
      | .body => none := by
  rw [List.findSome?_map]
  rfl

namespace Call

variable [Destination σ] {nesting : Nesting}

theorem prepare_keeps (call : Call) (p : Pass) :
    (call.prepare p).captures = p.captures ∧ (call.prepare p).layout? = p.layout? ∧
      (call.prepare p).sections = p.sections ∧ (call.prepare p).config = p.config := by
  cases call <;> exact ⟨rfl, rfl, rfl, rfl⟩

/-- The body counts as rendered from the first call on that renders it. -/
theorem prepare_input (call : Call) (p : Pass) :
    (call.prepare p).input? = p.input?.map fun input =>
      { input with bodyRendered := input.bodyRendered || decide (call = .renderBody) } := by
  cases page : p.input? <;> cases call <;> simp [prepare, page]

/-- A call that opens and closes nothing lets the captures grow, and leaves the sink in a state that
writing keeps. -/
theorem drive_grown (natural : nesting.Natural) {Q : σ → Prop} (kept : Logged.Kept fun _ => Q)
    (call : Call) (more : Nat) (f : Frame σ) (plain : call.arranges = false)
    (here : Q f.task.sink) :
    let f' := ((call.perform nesting f).drive more).state
    (call.prepare f.pass).Grown f'.pass ∧ Q f'.task.sink := by
  intro f'
  cases writing : call.writes with
  | true =>
    obtain ⟨pass, -, sink⟩ := call.perform_landed natural kept more f writing here
    exact ⟨pass ▸ Pass.takeAll_grown _ _, sink⟩
  | false =>
    obtain ⟨⟨writer, pass⟩, sink⟩ := (call.perform_unmoved nesting f writing plain).drive more
    refine ⟨?_, sink ▸ here⟩
    have same : call.prepare f.pass = f.pass := by
      cases call with
      | endAttribute | renderBody => cases writing
      | _ => rfl
    rw [same, show f'.pass = _ from pass]
    exact .of_captures rfl rfl rfl rfl rfl

/-- Choosing a layout is refused, or is all that happens. -/
theorem setLayout_cases (name : String) (more : Nat) (f : Frame σ) :
    let e := (setLayout name).entry nesting more f
    let f' := (((setLayout name).perform nesting f).drive more).state
    (e.succeeded = false ∧ f' = f) ∨
      (e.succeeded = true ∧ f' = { f with pass := f.pass.choosing name }) := by
  intro e f'
  obtain ⟨refused, accepted, changes, keeps⟩ := drive_setLayout nesting name f more
  cases written : f.pass.written with
  | true =>
    have failed := refused.mpr written
    refine .inl ⟨?_, keeps (by simp [failed])⟩
    simp [e, Entry.succeeded, entry, failed, Outcome.isOk]
  | false =>
    have ok := accepted.mpr written
    refine .inr ⟨?_, changes ok⟩
    simp [e, Entry.succeeded, entry, ok, Outcome.isOk]

/-- A section is opened if none is open and none of that name was closed. -/
theorem beginSection_cases (name : String) (more : Nat) (f : Frame σ) :
    let e := (beginSection name).entry nesting more f
    let f' := (((beginSection name).perform nesting f).drive more).state
    (e.succeeded = false ∧ f' = f) ∨
      (e.succeeded = true ∧ f.pass.openSection? = none ∧ f.pass.sections.lookup name = none ∧
        f' = { f with pass := { f.pass with
          captures := { kind := .section name } :: f.pass.captures } }) := by
  intro e f'
  have made : (beginSection name).perform nesting f = _ := Frame.change_unit _ f
  unfold e f' entry
  rw [made]
  cases opened : f.pass.openSection? with
  | some openName =>
    simp only [Pass.beginSection, opened]
    exact .inl ⟨rfl, rfl⟩
  | none =>
    by_cases defined : f.pass.definesSection name = true
    · simp only [Pass.beginSection, opened, if_pos defined]
      exact .inl ⟨rfl, rfl⟩
    · have undefined : f.pass.sections.lookup name = none :=
        Option.not_isSome_iff_eq_none.mp defined
      simp only [Pass.beginSection, opened, if_neg defined]
      exact .inr ⟨rfl, trivial, undefined, rfl⟩

/-- The innermost capture is closed as a section, or it is none and is lost. -/
theorem endSection_cases (more : Nat) (f : Frame σ) :
    let e := endSection.entry nesting more f
    let f' := ((endSection.perform nesting f).drive more).state
    (∃ c rest name, f.pass.captures = c :: rest ∧ c.kind = .section name ∧ e.succeeded = true ∧
        f' = { f with pass := { f.pass with
          captures := rest, sections := (name, c.text) :: f.pass.sections } }) ∨
      (e.uncaptures ∧ e.succeeded = false ∧
        (f' = f ∨ ∃ c rest, f.pass.captures = c :: rest ∧ c.kind = .body ∧
          f' = { f with pass := { f.pass with captures := rest } })) := by
  intro e f'
  unfold e f' Entry.uncaptures entry
  rw [endSection_unit]
  unfold Pass.endSection
  cases captured : f.pass.captures with
  | nil => exact .inr ⟨⟨rfl, rfl⟩, rfl, .inl rfl⟩
  | cons c rest =>
    cases kind : c.kind with
    | «section» name =>
      simp only [kind]
      exact .inl ⟨c, rest, name, rfl, kind, rfl, rfl⟩
    | body =>
      simp only [kind]
      exact .inr ⟨⟨trivial, rfl⟩, rfl, .inr ⟨c, rest, rfl, kind, rfl⟩⟩

end Call

namespace Frame

/-- What the calls of a pass tell of its frame. The captures are those of the place where it writes
and of the body, the latter only if a layout was chosen. -/
structure Agrees (config : Config) (input? : Option LayoutInput) (history : List Entry)
    (f : Frame σ) : Prop where
  config : f.pass.config = config
  input : f.pass.input? =
    input?.map ({ · with bodyRendered := history.any fun e => e.call = .renderBody })
  layout : f.pass.layout? = (history.filterMap Entry.layout?).getLast?
  kinds : ∃ rest, f.pass.captures.map Capture.kind = (Place.ofHistory history).kinds ++ rest ∧
    (rest = [] ∨ rest = [.body] ∧ f.pass.layout? ≠ none)
  fresh : ∀ name, Place.ofHistory history = .inside name → f.pass.sections.lookup name = none

namespace Agrees

variable {config : Config} {input? : Option LayoutInput} {history : List Entry} {f g : Frame σ}

theorem start (config : Config) (task : Task σ)
    (unrendered : ∀ input, input? = some input → input.bodyRendered = false) :
    ({ pass := .start config input?, task } : Frame σ).Agrees config input? [] where
  config := rfl
  input := by
    cases input? with
    | none => rfl
    | some input =>
      obtain ⟨body, sections, bodyRendered⟩ := input
      obtain rfl : bodyRendered = false := unrendered _ rfl
      rfl
  layout := rfl
  kinds := ⟨[], rfl, .inl rfl⟩
  fresh _ inside := nomatch inside

/-- A call that is refused, or that opens and closes nothing. -/
theorem still (agrees : f.Agrees config input? history) {e : Entry}
    (still : e.succeeded = false ∨ e.call.arranges = false)
    (grown : (e.call.prepare f.pass).Grown g.pass) :
    g.Agrees config input? (history ++ [e]) := by
  obtain ⟨captures, layout, sections, sameConfig⟩ := e.call.prepare_keeps f.pass
  have place : Place.ofHistory (history ++ [e]) = Place.ofHistory history := by
    rw [Place.ofHistory_snoc, Place.after]
    rcases still with refused | plain
    · simp [refused]
    · split
      · split <;> simp_all [Call.arranges]
      · rfl
  have unchosen : e.layout? = none := by
    unfold Entry.layout?
    split
    · next name chosen => rcases still with refused | plain <;> simp_all [Call.arranges]
    · rfl
  refine ⟨?_, ?_, ?_, ?_, ?_⟩
  · rw [grown.config, sameConfig, agrees.config]
  · rw [grown.input, e.call.prepare_input, agrees.input]
    cases input? <;> simp
  · rw [grown.layout, layout, agrees.layout, List.filterMap_append, List.filterMap_cons_none unchosen]
    simp
  · rw [place, grown.kinds, captures, grown.layout, layout]
    exact agrees.kinds
  · rw [place, grown.sections, sections]
    exact agrees.fresh

/-- The innermost capture is that of the place where the pass writes. -/
theorem innermost (agrees : f.Agrees config input? history) {c : Capture} {captures : List Capture}
    (captured : f.pass.captures = c :: captures) : c.kind = (Place.ofHistory history).kind := by
  obtain ⟨rest, kinds, bodied⟩ := agrees.kinds
  rw [captured, List.map_cons] at kinds
  cases here : Place.ofHistory history with
  | outside =>
    rw [here] at kinds
    rcases bodied with rfl | ⟨rfl, -⟩
    · cases kinds
    · exact (List.cons.inj kinds).1
  | inside name =>
    rw [here] at kinds
    exact (List.cons.inj kinds).1

theorem outside (agrees : f.Agrees config input? history) (unopened : f.pass.openSection? = none) :
    Place.ofHistory history = .outside := by
  obtain ⟨rest, kinds, -⟩ := agrees.kinds
  rw [Pass.openSection?_eq, kinds] at unopened
  cases here : Place.ofHistory history with
  | outside => rfl
  | inside opened => simp [here, Place.kinds] at unopened

theorem input_snoc (agrees : f.Agrees config input? history) {e : Entry}
    (other : e.call ≠ .renderBody) : f.pass.input? =
      input?.map ({ · with bodyRendered := (history ++ [e]).any fun e => e.call = .renderBody }) := by
  rw [agrees.input]
  simp [other]

theorem layout_snoc (agrees : f.Agrees config input? history) {e : Entry}
    (unchosen : e.layout? = none) :
    f.pass.layout? = ((history ++ [e]).filterMap Entry.layout?).getLast? := by
  rw [agrees.layout]
  simp [unchosen]

variable [Destination σ] {nesting : Nesting}

theorem refused (agrees : f.Agrees config input? history) {call : Call} {more : Nat}
    (unprepared : call.prepare f.pass = f.pass)
    (fails : (call.entry nesting more f).succeeded = false) (same : g = f) :
    g.Agrees config input? (history ++ [call.entry nesting more f]) := by
  subst same
  refine agrees.still (.inl fails) ?_
  rw [show (call.entry nesting more g).call.prepare g.pass = g.pass from unprepared]
  exact .of_captures rfl rfl rfl rfl rfl

theorem setLayout (agrees : f.Agrees config input? history) (name : String) (more : Nat) :
    Frame.Agrees config input? (history ++ [(Call.setLayout name).entry nesting more f])
      (((Call.setLayout name).perform nesting f).drive more).state := by
  rcases Call.setLayout_cases name more f with ⟨fails, same⟩ | ⟨succeeds, made⟩
  · exact agrees.refused rfl fails same
  · have chosen : ((Call.setLayout name).entry nesting more f).layout? = some name := by
      simp only [Entry.layout?, succeeds]
      rfl
    have place : Place.ofHistory (history ++ [(Call.setLayout name).entry nesting more f]) =
        Place.ofHistory history := by
      rw [Place.ofHistory_snoc, Place.after, if_pos succeeds]
      rfl
    obtain ⟨rest, kinds, bodied⟩ := agrees.kinds
    have captures : (f.pass.choosing name).captures.map Capture.kind =
        (Place.ofHistory history).kinds ++ [.body] := by
      rw [Pass.choosing, Pass.capturesBody_eq, kinds]
      rcases bodied with rfl | ⟨rfl, -⟩
      · have sectioned : ((Place.ofHistory history).kinds.getLast? == some .body) = false := by
          cases Place.ofHistory history <;> rfl
        simp [kinds, sectioned]
      · simp [kinds]
    rw [made]
    have other : ((Call.setLayout name).entry nesting more f).call ≠ .renderBody := by rintro ⟨⟩
    refine ⟨agrees.config, agrees.input_snoc other, by simp [chosen, Pass.choosing], ?_, ?_⟩
    · rw [place]
      exact ⟨[.body], captures, .inr ⟨rfl, Option.some_ne_none name⟩⟩
    · rw [place]
      exact agrees.fresh

theorem beginSection (agrees : f.Agrees config input? history) (name : String) (more : Nat) :
    Frame.Agrees config input? (history ++ [(Call.beginSection name).entry nesting more f])
      (((Call.beginSection name).perform nesting f).drive more).state := by
  rcases Call.beginSection_cases name more f with ⟨fails, same⟩ | ⟨succeeds, unopened, undefined, made⟩
  · exact agrees.refused rfl fails same
  · have place : Place.ofHistory (history ++ [(Call.beginSection name).entry nesting more f]) =
        .inside name := by
      rw [Place.ofHistory_snoc, Place.after, if_pos succeeds]
      rfl
    obtain ⟨rest, kinds, bodied⟩ := agrees.kinds
    rw [made]
    refine ⟨agrees.config, agrees.input_snoc nofun, agrees.layout_snoc rfl, ⟨rest, ?_, bodied⟩, ?_⟩
    · rw [place, List.map_cons, kinds, agrees.outside unopened]
      rfl
    · rw [place]
      rintro _ ⟨⟩
      exact undefined

theorem endSection (agrees : f.Agrees config input? history) (more : Nat) :
    Frame.Agrees config input? (history ++ [Call.endSection.entry nesting more f])
      ((Call.endSection.perform nesting f).drive more).state := by
  obtain ⟨rest, kinds, bodied⟩ := agrees.kinds
  rcases Call.endSection_cases more f with
    ⟨c, captures, name, captured, kind, succeeds, made⟩ |
      ⟨-, fails, same | ⟨c, captures, captured, kind, made⟩⟩
  · have place : Place.ofHistory (history ++ [Call.endSection.entry nesting more f]) = .outside := by
      rw [Place.ofHistory_snoc, Place.after, if_pos succeeds]
      rfl
    have opened : Place.ofHistory history = .inside name :=
      Place.eq_inside ((agrees.innermost captured).symm.trans kind)
    rw [captured, List.map_cons, opened] at kinds
    rw [made]
    refine ⟨agrees.config, agrees.input_snoc nofun, agrees.layout_snoc rfl, ⟨rest, ?_, bodied⟩, ?_⟩
    · rw [place]
      exact (List.cons.inj kinds).2
    · rw [place]
      exact nofun
  · exact agrees.refused rfl fails same
  · have place : Place.ofHistory (history ++ [Call.endSection.entry nesting more f]) =
        Place.ofHistory history := by
      rw [Place.ofHistory_snoc, Place.after, if_neg (by simp [fails])]
    have outside : Place.ofHistory history = .outside :=
      Place.eq_outside ((agrees.innermost captured).symm.trans kind)
    rw [captured, List.map_cons, outside] at kinds
    rw [made]
    refine ⟨agrees.config, agrees.input_snoc nofun, agrees.layout_snoc rfl, ⟨[], ?_, .inl rfl⟩, ?_⟩
    · rw [place, outside]
      rcases bodied with rfl | ⟨rfl, -⟩
      · cases kinds
      · exact (List.cons.inj kinds).2
    · rw [place]
      exact agrees.fresh

/-- A frame agrees with the calls of its pass whatever call comes next, and whatever it comes to. -/
theorem step (agrees : f.Agrees config input? history) (natural : nesting.Natural) (call : Call)
    (more : Nat) :
    Frame.Agrees config input? (history ++ [call.entry nesting more f])
      ((call.perform nesting f).drive more).state := by
  by_cases plain : call.arranges = false
  · exact agrees.still (.inr plain)
      (call.drive_grown natural Logged.true_kept more f plain trivial).1
  · cases call with
    | setLayout name => exact agrees.setLayout name more
    | beginSection name => exact agrees.beginSection name more
    | endSection => exact agrees.endSection more
    | _ => exact absurd rfl plain

end Agrees

theorem Leads.agrees [Destination σ] {nesting : Nesting} {config : Config}
    {input? : Option LayoutInput} {before history : List Entry} {f f' : Frame σ}
    (leads : Frame.Leads nesting f history f') (natural : nesting.Natural)
    (agrees : f.Agrees config input? before) : f'.Agrees config input? (before ++ history) := by
  induction leads generalizing before with
  | nil f => simpa using agrees
  | call call more later ih => simpa using ih (agrees.step natural call more)

end Frame

end Templating
