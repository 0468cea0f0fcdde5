import Templating.Destination.Recorder
import Templating.Proofs.LayoutChain

/-!
# When a layout can be chosen

A pass may choose a layout as long as it has issued nothing but empty texts to its own sink, and it
remembers that in a single flag. At every point that calls reach without a misuse the flag says
what a log of the sink says (`Books.written_pass`), whatever way the texts took and whether the
sink took them or not. A pass that chose a layout once may choose again, and loses nothing by it
(`Frame.Reached.setLayout_refused_iff`).
-/

namespace Templating

variable {σ : Type}

namespace Books

theorem written_pass (config : Config) (writer : AttributeWriter) (input? : Option LayoutInput)
    (b : Books) :
    (b.pass config writer input?).written = true ↔ ∃ text ∈ b.direct, text ≠ "" := by
  simp [Books.pass]

/-- The body is captured from the first choice of a layout on. -/
theorem capturesBody_pass (config : Config) (writer : AttributeWriter)
    (input? : Option LayoutInput) (b : Books) :
    (b.pass config writer input?).capturesBody = b.layout?.isSome := by
  cases opened : b.opened? <;> cases chosen : b.layout? <;>
    simp [Pass.capturesBody, Books.pass, Books.captures, opened, chosen]

/-- A call is booked as direct exactly if its pass captures nothing. -/
theorem direct_record [Destination σ] (nesting : Nesting) {config : Config}
    {writer : AttributeWriter} {input? : Option LayoutInput} {b : Books} {f : Frame σ}
    (pass : f.pass = b.pass config writer input?) (call : Call) (more : Nat) :
    (b.record (call.entry nesting more f)).direct =
      b.direct ++ if f.pass.captures = [] then call.issued nesting more f else [] := by
  have posted := b.direct_post config writer input? (call.issued nesting more f)
  rw [← pass] at posted
  cases writing : call.writes with
  | true =>
    have unmarked : b.mark call = b := by
      cases call with
      | setLayout _ | beginSection _ | endSection => cases writing
      | _ => rfl
    simpa only [Books.record, Call.entry, unmarked, ite_self] using posted
  | false =>
    have marked : (b.mark call).direct = b.direct := by
      cases call <;> rfl
    simp only [Books.record, Call.entry, Call.issued_of_silent nesting call more f writing,
      Books.post_nil, ite_self, List.append_nil]
    split
    · exact marked
    · rfl

end Books

/-- The pass when it chooses a layout; its body is captured below what it captures already. -/
def Pass.choosing (p : Pass) (name : String) : Pass :=
  { p with
    captures := if p.capturesBody then p.captures else p.captures ++ [{ kind := .body }]
    layout? := some name }

/-- A choice of a layout is refused, and changes nothing, or else it is all that happens. -/
theorem Call.drive_setLayout [Destination σ] (nesting : Nesting) (name : String) (f : Frame σ)
    (more : Nat) :
    let d := ((Call.setLayout name).perform nesting f).drive more
    (d.outcome? = some (.failed .layoutAfterOutput) ↔ f.pass.written = true) ∧
      (d.outcome? = some (.ok .unit) ↔ f.pass.written = false) ∧
      (d.outcome? = some (.ok .unit) → d.state = { f with pass := f.pass.choosing name }) ∧
      (d.outcome? ≠ some (.ok .unit) → d.state = f) := by
  intro d
  have performed : (Call.setLayout name).perform nesting f = _ := Frame.change_unit _ f
  unfold d
  rw [performed]
  cases flag : f.pass.written with
  | true =>
    rw [Pass.setLayout, if_pos flag]
    exact ⟨iff_of_true rfl rfl, iff_of_false nofun nofun, nofun, fun _ => rfl⟩
  | false =>
    rw [Pass.setLayout, if_neg (Bool.eq_false_iff.mp flag)]
    exact ⟨iff_of_false nofun nofun, iff_of_true rfl rfl, fun _ => rfl,
      fun refused => absurd rfl refused⟩

/-- At any point of a pass that calls reach without a misuse, let `issued` be what a log of its sink
holds of this pass: what its calls issued while nothing was captured. Choosing a layout is refused
exactly if some text in `issued` is not empty. It succeeds otherwise, and so it always does once the
pass chose a layout; nothing that is captured changes then. When the pass ends, the layout that was
chosen last is run, and receives all that was written outside of sections, and all sections. -/
theorem Frame.Reached.setLayout_refused_iff [Destination σ] (catalog : Catalog) (depth : Nat)
    {config : Config} {input? : Option LayoutInput} {task : Task σ} {history : List Entry}
    {f : Frame σ}
    (reached : Frame.Reached (catalog.nesting depth) { pass := .start config input?, task }
      history f) (name : String) (more : Nat) :
    let books := Books.ofHistory history
    let issued := books.direct
    let chosen := history.filterMap Entry.layout?
    let d := ((Call.setLayout name).perform (catalog.nesting depth) f).drive more
    (∃ l : Frame (Logged σ),
      Frame.Reached (catalog.nesting depth)
        { pass := .start config input?
          task := { cancelled := task.cancelled, sink := { sink := task.sink } } } history l ∧
      l.pass = f.pass ∧ l.task.sink = { sink := f.task.sink, texts := issued }) ∧
    (∀ (call : Call) (more : Nat),
      (Books.ofHistory (history ++ [call.entry (catalog.nesting depth) more f])).direct =
        issued ++ if f.pass.captures = [] then call.issued (catalog.nesting depth) more f
          else []) ∧
    (d.outcome? = some (.failed .layoutAfterOutput) ↔ ∃ text ∈ issued, text ≠ "") ∧
    (d.outcome? = some (.ok .unit) ↔ ∀ text ∈ issued, text = "") ∧
    (d.outcome? = some (.ok .unit) → d.state = { f with pass := f.pass.choosing name }) ∧
    (d.outcome? ≠ some (.ok .unit) → d.state = f) ∧
    (chosen ≠ [] → d.outcome? = some (.ok .unit) ∧
      d.state = { f with pass := { f.pass with layout? := some name } }) ∧
    (f.pass.unfinished? = none → f.pass.next? =
      chosen.getLast?.map fun layout => { layout, input := books.handedOn }) := by
  intro books issued chosen d
  have natural : (catalog.nesting depth).Natural := catalog.nesting_natural depth
  obtain ⟨l, logged, samePass, -, sameSink⟩ := reached.logged natural
  have balanced := logged.balanced natural
  have layout : books.layout? = chosen.getLast? := Books.ofHistory_layout? history
  have twin : l.task.sink = { sink := f.task.sink, texts := issued } := by
    rw [← sameSink, ← List.nil_append issued, ← balanced.log]
  obtain ⟨writer, bodyRendered, pass⟩ := balanced.pass
  rw [samePass] at pass
  have written : f.pass.written = true ↔ ∃ text ∈ issued, text ≠ "" := by
    rw [pass]
    exact books.written_pass _ _ _
  have silent : f.pass.written = false ↔ ∀ text ∈ issued, text = "" := by
    rw [← Bool.not_eq_true, written]
    simp
  -- once a layout is chosen, the flag stays down and the body is captured already
  have again : chosen ≠ [] → f.pass.written = false ∧
      f.pass.choosing name = { f.pass with layout? := some name } := by
    intro some
    have chose : books.layout? ≠ none := by
      rw [layout]
      simpa using some
    have captures : f.pass.capturesBody = true := by
      rw [pass, Books.capturesBody_pass]
      exact Option.isSome_iff_ne_none.mpr chose
    refine ⟨silent.mpr (balanced.sound.quiet chose), ?_⟩
    rw [Pass.choosing, if_pos captures]
  have handsOn : f.pass.unfinished? = none → f.pass.next? =
      chosen.getLast?.map fun layout => { layout, input := books.handedOn } := by
    intro finished
    rw [← samePass] at finished ⊢
    rw [balanced.next? finished, layout]
  have counts : ∀ (call : Call) (more : Nat),
      (Books.ofHistory (history ++ [call.entry (catalog.nesting depth) more f])).direct =
        issued ++ if f.pass.captures = [] then call.issued (catalog.nesting depth) more f
          else [] := by
    intro call more
    rw [Books.ofHistory, List.foldl_append]
    exact Books.direct_record (catalog.nesting depth) pass call more
  obtain ⟨refused, accepted, changes, keeps⟩ :=
    Call.drive_setLayout (catalog.nesting depth) name f more
  refine ⟨⟨l, logged, samePass, twin⟩, counts, refused.trans written, accepted.trans silent,
    changes, keeps, fun some => ?_, handsOn⟩
  obtain ⟨quiet, same⟩ := again some
  have ok : d.outcome? = _ := accepted.mpr quiet
  exact ⟨ok, (changes ok).trans (congrArg (Frame.mk · f.task) same)⟩

/-- The sink refuses the first text that the pass issues, and the second is captured. -/
theorem Frame.Reached.setLayout_refused_iff_refusedText :
    let nesting := Catalog.nesting (fun _ => { body := { name := "", steps := [] } }) 0
    let start : Frame Recorder :=
      { pass := .start {} none, task := { sink := { refusals := [0] } } }
    ∃ history f, Frame.Reached nesting start history f ∧ f.task.sink.taken = [] ∧
      (Books.ofHistory history).direct = ["x"] ∧
      (((Call.setLayout "outer").perform nesting f).drive 0).outcome? =
        some (.failed .layoutAfterOutput) := by
  intro nesting start
  have begun : Frame.Reached nesting start [] start := .start
  have reached := ((begun.call (.literal "x") 0 rfl).call (.beginSection "menu") 0 rfl).call
    (.literal "y") 0 rfl
  obtain ⟨-, -, refused, -⟩ := reached.setLayout_refused_iff (fun _ => _) 0 "outer" 0
  exact ⟨_, _, reached, by decide, by decide, refused.mpr (by decide)⟩

end Templating
