import Mathlib.Data.List.Forall2
import Templating.Proofs.AttributeCalls
import Templating.Proofs.CaughtErrors
import Templating.Proofs.ComposedText
import Templating.Proofs.NestedTemplates

/-!
# Values in attributes

A value can be written where it stands, or be added to an attribute that is written when it is
closed. On the first way its text goes to the destination at once, a template being rendered in
place; on the second it is rendered to memory, kept together with its safety, and escaped in the
end. Both come to the same text and to the same errors (`Call.attribute_agrees`).
-/

namespace Templating

variable {σ : Type}

namespace InMemory

theorem put_injective [Destination σ] {s : σ} {put : String → σ} (memory : InMemory s put)
    {text other : String} (same : put text = put other) : text = other := by
  induction memory with
  | buffer b => simpa [TextBuffer.push] using same
  | @captured σ _ f c rest captures => simpa [Frame.capturing] using same
  | @direct σ _ f put captures sink ih => exact ih (congrArg (fun f => f.task.sink) same)

end InMemory

/-- To memory the portions of an attribute are delivered whole. -/
theorem Closing.returns_written (a : Attribute) (encoding : Encoding) (b : TextBuffer) :
    ((written a).write encoding b).Returns true (b.push (a.shown encoding)) := by
  obtain ⟨-, result, b', delivers, outcome, state⟩ := await_written a encoding b
  obtain ⟨result', b'', delivers', all⟩ := Delivers.exists_writeAll (a.portions encoding) b
  obtain ⟨rfl, rfl⟩ := delivers.unique delivers'
  rw [TextBuffer.writeAll_eq, a.join_portions] at all
  cases result with
  | ok _ =>
    cases all
    exact ⟨outcome, state⟩
  | error e => cases all

/-- An attribute of the count that was declared is written whole to memory, or left out. -/
theorem AttributeWriter.close_returns (w : AttributeWriter) {a : Attribute}
    (counted : a.fragments.length = a.head.declared) (encoding : Encoding) (b : TextBuffer) :
    ∃ flag, ((close { w with pending := some a }).1.write encoding b).Returns flag
      (b.push (if a.isWritten then a.shown encoding else "")) := by
  have allowed : (w.strict && a.miscounted) = false := by
    simp [Attribute.miscounted, counted]
  simp only [close, allowed, Bool.false_eq_true, if_false]
  cases a.isWritten with
  | true => exact ⟨true, Closing.returns_written a encoding b⟩
  | false =>
    obtain ⟨outcome, state, -⟩ := Closing.await_leftOut a encoding b
    exact ⟨false, outcome, state.trans b.push_empty.symm⟩

/-- The frame with an attribute that is open. -/
def Frame.opened (f : Frame σ) (a : Attribute) : Frame σ :=
  { f with pass := { f.pass with writer := { f.pass.writer with pending := some a } } }

namespace Call

variable [Destination σ] {nesting : Nesting} {f : Frame σ} {put : String → Frame σ}

/-- Writing a value to memory ends as resolving it does, and appends what it is as a fragment. -/
theorem write_resolve (natural : nesting.Natural) (memory : InMemory f put) (value : Value)
    {τ : Type} (t : τ) :
    ∃ (o : Outcome Unit) (m : MarkedText),
      ((write value).perform nesting f).await.outcome? = some (o.map fun _ => .unit) ∧
        ((write value).perform nesting f).await.state = put (m.shown f.pass.config.encoding) ∧
        (value.resolve nesting t).silent = .done (o.map fun _ => m) t := by
  obtain ⟨o, b, m, written, resolved, shown⟩ :=
    value.resolve_output nesting f.pass.config.encoding t
  have follows := (write value).perform_inMemory natural memory rfl rfl
  obtain ⟨outcome, state⟩ := follows.await id
  have replied : ((write value).output nesting f.pass ({} : TextBuffer)).silent =
      .done (o.map fun _ => .unit) b := by
    refine (Run.silent_bind _ _).trans ?_
    rw [written]
    cases o <;> rfl
  have state : ((write value).perform nesting f).await.state = put _ := state
  rw [← Run.silent_outcome ((write value).output _ _ _), replied] at outcome
  rw [← Run.silent_state ((write value).output _ _ _), replied] at state
  exact ⟨o, m, outcome, state.trans (congrArg put shown.symm), resolved⟩

theorem attributeValue_returns (head : FragmentHead) {value : Value} {m : MarkedText}
    (a : Attribute)
    (resolved : (value.resolve nesting (f.opened a)).silent = .done (.ok m) (f.opened a)) :
    ((attributeValue head value).perform nesting (f.opened a)).Returns .unit
      (f.opened { a with fragments := a.fragments ++ [{ head, value := m }] }) := by
  rw [← Run.silent_returns]
  show ((Frame.attributeValue nesting head value).unit (f.opened a)).silent.Returns _ _
  rw [Frame.attributeValue_unit, Run.silent_bind, resolved]
  exact ⟨rfl, rfl⟩

/-- One after the other the values become fragments, each of them the text that it is written as. -/
theorem makes_attributeValues (natural : nesting.Natural) (memory : InMemory f put)
    {parts : List (FragmentHead × Value)} {texts : List String}
    (dynamic : ∀ part ∈ parts, part.1.literal = false)
    (written : List.Forall₂ (fun part text =>
      ((write part.2).perform nesting f).Returns .unit (put text)) parts texts) (a : Attribute) :
    ∃ fragments : List Fragment, fragments.length = parts.length ∧
      fragments.map (·.shown f.pass.config.encoding) =
        List.zipWith (fun part text => part.1.lead ++ text) parts texts ∧
      fragments.any Fragment.isPresent = texts.any (!·.isEmpty) ∧
      Frame.Makes nesting (parts.map fun part => attributeValue part.1 part.2) (f.opened a)
        (f.opened { a with fragments := a.fragments ++ fragments }) := by
  -- By induction on the values. The attribute grows; that does not change what a value resolves to.
  induction written generalizing a with
  | nil => exact ⟨[], rfl, rfl, rfl, by simpa using Frame.Makes.nil (f.opened a)⟩
  | @cons part text parts texts first later ih =>
    rw [List.forall_mem_cons] at dynamic
    obtain ⟨o, m, outcome, state, resolved⟩ := write_resolve natural memory part.2 (f.opened a)
    have shown : m.shown f.pass.config.encoding = text :=
      memory.put_injective (state.symm.trans first.2)
    have succeeds : (o.map fun _ => m) = .ok m := by
      have ended := Option.some.inj (outcome.symm.trans first.1)
      cases o with
      | ok _ => rfl
      | _ => cases ended
    rw [succeeds] at resolved
    have added := attributeValue_returns part.1 a resolved
    obtain ⟨fragments, length, texts', present, makes⟩ := ih dynamic.2
      { a with fragments := a.fragments ++ [{ head := part.1, value := m }] }
    refine ⟨{ head := part.1, value := m } :: fragments, congrArg (· + 1) length, ?_, ?_, ?_⟩
    · have own : Fragment.shown { head := part.1, value := m } f.pass.config.encoding =
          part.1.lead ++ text := by
        simp [Fragment.shown, dynamic.1, shown]
      rw [List.map_cons, own, texts']
      rfl
    · have own : Fragment.isPresent { head := part.1, value := m } = !text.isEmpty := by
        rw [Fragment.isPresent, dynamic.1, ← shown, m.shown_isEmpty]
        rfl
      rw [List.any_cons, List.any_cons, own, present]
    · rw [List.append_assoc] at makes
      exact .cons added makes

theorem endAttribute_returns (natural : nesting.Natural) (memory : InMemory f put)
    (closed : f.pass.writer.pending = none) {a : Attribute}
    (counted : a.fragments.length = a.head.declared) :
    (endAttribute.perform nesting (f.opened a)).Returns .unit
      (put (if a.isWritten then a.shown f.pass.config.encoding else "")) := by
  -- What is left to be written once the attribute is closed starts in `f` itself.
  have prepared : { f.opened a with pass := endAttribute.prepare (f.opened a).pass } = f := by
    have writer : (f.opened a).pass.writer.close.2 = f.pass.writer := by
      rw [AttributeWriter.close_snd]
      show { f.pass.writer with pending := none } = f.pass.writer
      rw [← closed]
    show { f with pass := { f.pass with writer := (f.opened a).pass.writer.close.2 } } = f
    rw [writer]
  obtain ⟨flag, wrote⟩ :=
    f.pass.writer.close_returns counted f.pass.config.encoding ({} : TextBuffer)
  have respects := InMemory.beside_respects memory
  have follows : Action.Follows (InMemory.beside put)
      (endAttribute.output nesting (f.opened a).pass)
      (endAttribute.output nesting (f.opened a).pass) :=
    .output respects (natural id respects) (f.opened a).pass endAttribute
  have ended : (endAttribute.output nesting (f.opened a).pass ({} : TextBuffer)).Returns .unit
      (({} : TextBuffer).push (if a.isWritten then a.shown f.pass.config.encoding else "")) :=
    (Run.returns_bind _ _ _ _).mpr
      ⟨(), _, (Run.returns_bind _ _ _ _).mpr ⟨flag, _, wrote, rfl, rfl⟩, rfl, rfl⟩
  obtain ⟨outcome, state⟩ := (follows.run memory.put_empty.symm).await id
  rw [perform_output nesting endAttribute (f.opened a) rfl, prepared]
  refine ⟨outcome.trans ended.1, ?_⟩
  have state : _ = put _ := state
  rw [ended.2, TextBuffer.push_text, String.empty_append] at state
  exact state

theorem beginAttribute_perform (head : AttributeHead) (closed : f.pass.writer.pending = none) :
    (beginAttribute head).perform nesting f =
      if head.hasRoom then .done (.ok .unit) (f.opened { head })
      else .done (.misused .noRoom) f := by
  show (Frame.changeWriter (·.start head)).unit f = _
  rw [Frame.changeWriter_unit]
  simp only [AttributeWriter.start, closed]
  cases head.hasRoom <;> rfl

omit [Destination σ] in
theorem changeWriter_ne_failed (change : AttributeWriter → Except Misuse AttributeWriter)
    (f : Frame σ) (e : RenderError) :
    ((Frame.changeWriter change).unit f).silent.await.outcome? ≠ some (.failed e) := by
  rw [Run.silent_outcome, Frame.changeWriter_unit]
  cases change f.pass.writer <;> exact nofun

/-- A value fails to be added to an attribute as it fails to be written. -/
theorem attributeValue_fails_iff (natural : nesting.Natural) (memory : InMemory f put)
    (head : FragmentHead) (value : Value) (e : RenderError) :
    ((attributeValue head value).perform nesting f).await.outcome? = some (.failed e) ↔
      ((write value).perform nesting f).await.outcome? = some (.failed e) := by
  obtain ⟨o, m, outcome, -, resolved⟩ := write_resolve natural memory value f
  have made : ((attributeValue head value).perform nesting f).silent =
      (Run.done (o.map fun _ => m) f).bind fun m g =>
        ((Frame.changeWriter (·.add { head, value := m })).unit g).silent := by
    show ((Frame.attributeValue nesting head value).unit f).silent = _
    rw [Frame.attributeValue_unit, Run.silent_bind, resolved]
  rw [← Run.silent_outcome ((attributeValue head value).perform nesting f), made, outcome]
  cases o with
  | ok _ => exact iff_of_false (changeWriter_ne_failed _ f e) nofun
  | failed e' =>
    constructor
    · rintro ⟨⟩
      rfl
    · rintro ⟨⟩
      rfl
  | misused m => exact iff_of_false nofun nofun
  | tooDeep => exact iff_of_false nofun nofun

/-- In memory, let there be values that can be written, and let each text be what writing its value
appends. An attribute of these values, none of them literal, that declares their number comes to
the texts, each behind what leads to its value, between the opening and the closing; it comes to
nothing if there are texts and all are empty. Only if there are more values than memory can hold
fragments, the attribute is not opened, and nothing changes. A value fails to be added to an
attribute exactly if it fails to be written, with the same error, and that adds neither a fragment
nor any text. -/
theorem attribute_agrees (catalog : Catalog) (depth : Nat) (memory : InMemory f put) :
    let nesting := catalog.nesting depth
    (∀ (head : AttributeHead) (parts : List (FragmentHead × Value)) (texts : List String),
      f.pass.writer.pending = none → head.declared = parts.length →
      (∀ part ∈ parts, part.1.literal = false) →
      List.Forall₂ (fun part text =>
        ((write part.2).perform nesting f).Returns .unit (put text)) parts texts →
      if head.hasRoom then
        Frame.Makes nesting
          (beginAttribute head :: parts.map (fun part => attributeValue part.1 part.2) ++
            [endAttribute]) f
          (put (if texts = [] ∨ ∃ text ∈ texts, text ≠ "" then
            head.opening ++
              String.join (List.zipWith (fun part text => part.1.lead ++ text) parts texts) ++
              head.closing
          else ""))
      else (beginAttribute head).perform nesting f = .done (.misused .noRoom) f) ∧
    ∀ (head : FragmentHead) (value : Value) (e : RenderError),
      let added := ((attributeValue head value).perform nesting f).await
      (added.outcome? = some (.failed e) ↔
        ((write value).perform nesting f).await.outcome? = some (.failed e)) ∧
      (added.outcome? = some (.failed e) → added.state = f) := by
  intro nesting
  have natural : (catalog.nesting depth).Natural := catalog.nesting_natural depth
  constructor
  · intro head parts texts closed declared dynamic written
    obtain ⟨fragments, length, shown, present, makes⟩ :=
      makes_attributeValues natural memory dynamic written { head }
    let a : Attribute := { head, fragments := [] ++ fragments }
    have counted : a.fragments.length = a.head.declared := length.trans declared.symm
    have closes := endAttribute_returns natural memory closed counted
    have decided : a.isWritten = true ↔ texts = [] ∨ ∃ text ∈ texts, text ≠ "" := by
      have none : fragments = [] ↔ texts = [] := by
        rw [← List.length_eq_zero_iff, length, written.length_eq, List.length_eq_zero_iff]
      simp [a, Attribute.isWritten, present, none]
    have whole : a.shown f.pass.config.encoding = head.opening ++
        String.join (List.zipWith (fun part text => part.1.lead ++ text) parts texts) ++
        head.closing := by
      rw [← shown]
      rfl
    simp only [decided, whole] at closes
    have begun : (beginAttribute head).perform nesting f = _ := beginAttribute_perform head closed
    split
    · next room =>
      rw [if_pos room] at begun
      have returned : ((beginAttribute head).perform nesting f).Returns .unit
          (f.opened { head }) := begun ▸ ⟨rfl, rfl⟩
      exact .append (.cons returned makes) (.cons closes (.nil _))
    · next full => exact begun.trans (if_neg full)
  · intro head value e added
    refine ⟨attributeValue_fails_iff natural memory head value e, fun failed => ?_⟩
    have spared : ((attributeValue head value).perform nesting f).Spares (fun _ => true) f :=
      Frame.attributeValue_spares nesting head value
    unfold added
    rw [← Run.silent_state, spared e rfl failed]
    rfl

/-- A template that greets inside a layout, and one that fails after it wrote something. -/
def greetingSite : Catalog
  | "frame" => { body := { name := "frame", steps := [{ call := .literal "<" },
      { call := .renderBody }, { call := .literal ">" }] } }
  | "greeting" => { body := { name := "greeting", steps := [{ call := .setLayout "frame" },
      { call := .write (.plain (some "a&b")) }] } }
  | _ => { body := { name := "broken", steps := [{ call := .literal "lost" },
      { call := .fail (.body "broken" []) }] } }

/-- A section that has some text already. -/
def sectionFrame : Frame TextBuffer where
  pass := { Pass.start {} none with captures := [{ kind := .section "menu", text := "x" }] }
  task := { sink := {} }

theorem attribute_agrees_sectionFrame :
    let nesting := greetingSite.nesting 2
    let put := sectionFrame.capturing { kind := .section "menu", text := "x" } []
    let head : AttributeHead := { name := "id", opening := " id=", closing := ";", declared := 3 }
    let parts : List (FragmentHead × Value) := [({ lead := "1" }, .plain (some "<")),
      ({ lead := "2" }, .plain none), ({ lead := "3" }, .template "greeting")]
    let texts := ["&lt;", "", "<a&amp;b>"]
    InMemory sectionFrame put ∧ sectionFrame.pass.writer.pending = none ∧
      head.declared = parts.length ∧ (∀ part ∈ parts, part.1.literal = false) ∧
      List.Forall₂ (fun part text =>
        ((write part.2).perform nesting sectionFrame).Returns .unit (put text)) parts texts ∧
      Frame.Makes nesting
        (beginAttribute head :: parts.map (fun part => attributeValue part.1 part.2) ++
          [endAttribute]) sectionFrame (put " id=1&lt;23<a&amp;b>;") ∧
      ((attributeValue {} (.template "broken")).perform nesting sectionFrame).await.state =
        sectionFrame := by
  intro nesting put head parts texts
  have memory : InMemory sectionFrame put := .captured rfl
  have dynamic : ∀ part ∈ parts, part.1.literal = false := by decide
  have written : List.Forall₂ (fun part text =>
      ((write part.2).perform nesting sectionFrame).Returns .unit (put text)) parts texts :=
    .cons ⟨rfl, rfl⟩ (.cons ⟨rfl, rfl⟩ (.cons ⟨rfl, rfl⟩ .nil))
  have failed : ((write (.template "broken")).perform nesting sectionFrame).await.outcome? =
      some (.failed (.body "broken" [])) := by
    decide +kernel
  obtain ⟨agrees, fails⟩ := attribute_agrees greetingSite 2 memory
  have makes := agrees head parts texts rfl rfl dynamic written
  obtain ⟨same, kept⟩ := fails {} (.template "broken") (.body "broken" [])
  exact ⟨memory, rfl, rfl, dynamic, written, makes, kept (same.mpr failed)⟩

end Call

end Templating
