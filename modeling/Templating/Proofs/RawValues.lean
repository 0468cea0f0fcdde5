import Templating.Proofs.AttributeValues

/-!
# Values under raw encoding

Under raw encoding a value that is no template is written as it is, where it stands and as a
fragment of an attribute, with one exception: marked text that is content of its own is not told
the encoding, and is escaped as HTML unless it was marked as safe. Its text is then delivered as it
is only if it has nothing to escape (`Call.raw_verbatim_iff`).
-/

namespace Templating

variable {σ : Type}

namespace Escape

theorem escapeChar_of_clean {c : Char} (clean : isSpecial c = false) : escapeChar c = [c] := by
  unfold isSpecial at clean
  unfold escapeChar
  cases entity : entity? c with
  | none => rfl
  | some e => simp [entity] at clean

/-- An entity is longer than the character that it stands for. -/
theorem length_escapeChar_of_special {c : Char} (special : isSpecial c = true) :
    1 < (escapeChar c).length := by
  unfold isSpecial entity? at special
  unfold escapeChar entity?
  split at special
  · decide
  · decide
  · decide
  · decide
  · decide
  · cases special

theorem length_le_flatMap_escapeChar (text : List Char) :
    text.length ≤ (text.flatMap escapeChar).length := by
  induction text with
  | nil => exact Nat.le_refl 0
  | cons c rest ih =>
    have positive := List.length_pos_iff.mpr (escapeChar_ne_nil c)
    rw [List.flatMap_cons, List.length_append, List.length_cons]
    omega

/-- Escaping changes every text but those that have nothing to escape. -/
theorem escape_eq_self_iff (text : String) : escape text = text ↔ isClean text = true := by
  have chars : ∀ text : List Char, text.flatMap escapeChar = text ↔
      (text.all fun c => !isSpecial c) = true := by
    intro text
    induction text with
    | nil => exact iff_of_true rfl rfl
    | cons c rest ih =>
      rw [List.flatMap_cons, List.all_cons]
      cases special : isSpecial c with
      | false => simpa [escapeChar_of_clean special] using ih
      | true =>
        refine iff_of_false (fun same => ?_) (by simp)
        -- The escaped text would be longer than the text.
        have shorter := congrArg List.length same
        have longer := length_escapeChar_of_special special
        have later := length_le_flatMap_escapeChar rest
        rw [List.length_append, List.length_cons] at shorter
        omega
  rw [isClean, ← chars, escape, ← String.toList_inj, String.toList_ofList]

/-- Text with nothing to escape is one portion. -/
theorem pieces_of_clean {text : String} (clean : isClean text = true) (present : text ≠ "") :
    pieces text = [text] := by
  have cuts : ∀ (run text : List Char), (text.all fun c => !isSpecial c) = true →
      cut run text = portion (run.reverse ++ text) := by
    intro run text
    induction text generalizing run with
    | nil => simp [cut]
    | cons c rest ih =>
      intro clean
      rw [List.all_cons, Bool.and_eq_true] at clean
      have plain : entity? c = none := by simpa [isSpecial] using clean.1
      simp only [cut, plain]
      rw [ih _ clean.2, List.reverse_cons, List.append_assoc]
      rfl
  have chars : text.toList.isEmpty = false := by simpa using present
  rw [pieces, cuts [] text.toList clean]
  simp [portion, chars]

end Escape

namespace Value

/-- The text that a value brings along, before any escaping. That of a template is rendered. -/
def ownText? : Value → Option String
  | plain text? => some (text?.getD "")
  | safe text => some text
  | encoded (.html t) => some t.text
  | encoded (.marked t) => some t.text
  | encoded (.template _) | template _ => none

/-- Content of its own that escapes itself. -/
def escapesItself : Value → Bool
  | encoded (.marked t) => !t.safe
  | _ => false

variable {v : Value} {text : String}

/-- What has text of its own fails nowhere in memory. -/
theorem output_memory (own : v.ownText? = some text) (nesting : Nesting) (nested : String → String)
    (encoding : Encoding) (b : TextBuffer) :
    v.output nesting encoding b = .done (.ok ()) (b.push (v.shown nested encoding)) := by
  have portions : ∀ (m : MarkedText) (encoding : Encoding),
      Action.writeAll (m.portions encoding) b = .done (.ok ()) (b.push (m.shown encoding)) := by
    intro m encoding
    rw [b.writeAll_eq, m.join_portions]
  cases v with
  | plain text? =>
    refine (portions (.dynamic text?) encoding).trans ?_
    cases text? with
    | none => exact congrArg (fun t => Run.done _ (b.push t)) encoding.encode_empty
    | some text => rfl
  | safe text => exact portions (.raw text) encoding
  | encoded content =>
    cases content with
    | html t =>
      refine (b.writeAll_eq t.portions).trans ?_
      simp [SafeText.portions, shown]
    | marked t => exact portions t .html
    | template name => cases own
  | template name => cases own

/-- Under raw encoding the text is written as it is, unless it escapes itself. -/
theorem shown_raw_eq_iff (own : v.ownText? = some text) (nested : String → String) :
    v.shown nested .raw = text ↔ (v.escapesItself = true → Escape.isClean text = true) := by
  cases v with
  | plain text? =>
    cases own
    refine iff_of_true ?_ nofun
    cases text? <;> rfl
  | safe text =>
    cases own
    exact iff_of_true rfl nofun
  | encoded content =>
    cases content with
    | html t =>
      cases own
      exact iff_of_true rfl nofun
    | marked t =>
      cases own
      cases safe : t.safe with
      | true => exact iff_of_true (by simp [shown, safe]) (by simp [escapesItself, safe])
      | false => simp [shown, escapesItself, safe, Encoding.encode, Escape.escape_eq_self_iff]
    | template name => cases own
  | template name => cases own

/-- To any destination such text goes whole, as one portion; absent text may be left out. -/
theorem output_raw (own : v.ownText? = some text)
    (verbatim : v.escapesItself = true → Escape.isClean text = true) (nesting : Nesting)
    [Destination σ] :
    (v.output nesting .raw : Action σ Unit) = Action.writeAll [text] ∨
      text = "" ∧ (v.output nesting .raw : Action σ Unit) = pure () := by
  have portions : ∀ (m : MarkedText) (encoding : Encoding),
      (m.safe = true ∨ Escape.portions encoding m.text = [m.text] ∨ m.text = "") →
        m.portions encoding = [m.text] ∨ m.text = "" ∧ m.portions encoding = [] := by
    intro m encoding single
    by_cases absent : m.text = ""
    · exact .inr ⟨absent, by simp [MarkedText.portions, MarkedText.isAbsent, absent]⟩
    · refine .inl ?_
      have present : m.isAbsent = false := by simpa [MarkedText.isAbsent] using absent
      rw [MarkedText.portions, present]
      rcases single with safe | single | empty
      · simp [safe]
      · simp [single]
      · exact absurd empty absent
  have writes : ∀ texts : List String, texts = [text] ∨ text = "" ∧ texts = [] →
      (Action.writeAll texts : Action σ Unit) = Action.writeAll [text] ∨
        text = "" ∧ (Action.writeAll texts : Action σ Unit) = pure () := by
    rintro texts (rfl | ⟨empty, rfl⟩)
    · exact .inl rfl
    · exact .inr ⟨empty, rfl⟩
  cases v with
  | plain text? =>
    cases own
    exact writes _ (portions (.dynamic text?) .raw (.inr (.inl rfl)))
  | safe text =>
    cases own
    exact writes _ (portions (.raw text) .raw (.inl rfl))
  | encoded content =>
    cases content with
    | html t =>
      cases own
      exact .inl rfl
    | marked t =>
      cases own
      refine writes _ (portions t .html ?_)
      cases safe : t.safe with
      | true => exact .inl rfl
      | false =>
        by_cases empty : t.text = ""
        · exact .inr (.inr empty)
        · have clean := verbatim (by simp [escapesItself, safe])
          exact .inr (.inl (Escape.pieces_of_clean clean empty))
    | template name => cases own
  | template name => cases own

end Value

namespace Call

variable [Destination σ] {nesting : Nesting} {f : Frame σ} {put : String → Frame σ}
  {v : Value} {text : String}

/-- What has text of its own writes it to memory as it is shown. -/
theorem write_returns_shown (natural : nesting.Natural) (memory : InMemory f put)
    (own : v.ownText? = some text) (nested : String → String) :
    ((write v).perform nesting f).Returns .unit
      (put (v.shown nested f.pass.config.encoding)) := by
  have follows := (write v).perform_inMemory natural memory rfl rfl
  have written : (write v).output nesting f.pass ({} : TextBuffer) =
      .done (.ok .unit) (({} : TextBuffer).push (v.shown nested f.pass.config.encoding)) := by
    show Run.bind _ (v.output nesting f.pass.config.encoding ({} : TextBuffer)) = _
    rw [v.output_memory own nesting nested]
    rfl
  rw [written] at follows
  obtain ⟨outcome, state⟩ := follows.await id
  exact ⟨outcome, state.trans (congrArg put String.empty_append)⟩

/-- As a fragment of an attribute a value holds the text that it is shown as. -/
theorem attributeValue_returns_shown (natural : nesting.Natural) (memory : InMemory f put)
    (own : v.ownText? = some text) (nested : String → String) {head : FragmentHead}
    (dynamic : head.literal = false) (a : Attribute) :
    ∃ fragment : Fragment, fragment.head = head ∧
      fragment.shown f.pass.config.encoding =
        head.lead ++ v.shown nested f.pass.config.encoding ∧
      ((attributeValue head v).perform nesting (f.opened a)).Returns .unit
        (f.opened { a with fragments := a.fragments ++ [fragment] }) := by
  obtain ⟨o, m, outcome, state, resolved⟩ := write_resolve natural memory v (f.opened a)
  have wrote := write_returns_shown natural memory own nested
  have shown : m.shown f.pass.config.encoding = v.shown nested f.pass.config.encoding :=
    memory.put_injective (state.symm.trans wrote.2)
  have succeeds : (o.map fun _ => m) = .ok m := by
    have ended := Option.some.inj (outcome.symm.trans wrote.1)
    cases o with
    | ok _ => rfl
    | _ => cases ended
  rw [succeeds] at resolved
  refine ⟨{ head, value := m }, rfl, ?_, attributeValue_returns head a resolved⟩
  simp [Fragment.shown, dynamic, shown]

/-- Let the encoding be raw, and let a value have text of its own that does not escape itself. To
any destination and in every state of the captures, writing the value is writing that text, whole
and as it is. In memory a value is delivered so exactly if it does not escape itself or has nothing
to escape, where it stands as well as behind what leads to it as a fragment of an attribute; and an
attribute delivers its fragments between its opening and its closing, unless all are absent. -/
theorem raw_verbatim_iff (catalog : Catalog) (depth : Nat) (own : v.ownText? = some text) :
    let nesting := catalog.nesting depth
    let verbatim : Prop := v.escapesItself = true → Escape.isClean text = true
    (∀ {τ : Type} [Destination τ] (g : Frame τ), g.pass.config.encoding = .raw → verbatim →
      (write v).perform nesting g = (Action.write text).unit g ∨
        text = "" ∧ (write v).perform nesting g = .done (.ok .unit) g) ∧
    ∀ {σ : Type} [Destination σ] {f : Frame σ} {put : String → Frame σ}, InMemory f put →
      f.pass.config.encoding = .raw →
      (((write v).perform nesting f).Returns .unit (put text) ↔ verbatim) ∧
      (∀ (head : FragmentHead) (a : Attribute), head.literal = false →
        ∃ fragment : Fragment, fragment.head = head ∧
          (fragment.shown .raw = head.lead ++ text ↔ verbatim) ∧
          ((attributeValue head v).perform nesting (f.opened a)).Returns .unit
            (f.opened { a with fragments := a.fragments ++ [fragment] })) ∧
      ∀ a : Attribute, f.pass.writer.pending = none → a.fragments.length = a.head.declared →
        (endAttribute.perform nesting (f.opened a)).Returns .unit
          (put (if a.isWritten then
            a.head.opening ++ String.join (a.fragments.map (·.shown .raw)) ++ a.head.closing
          else "")) := by
  intro nesting verbatim
  have natural : (catalog.nesting depth).Natural := catalog.nesting_natural depth
  have shownAsIs : v.shown (fun _ => "") .raw = text ↔ verbatim := v.shown_raw_eq_iff own _
  constructor
  · intro τ _ g raw asIs
    have performed : (write v).perform nesting g =
        (v.output nesting g.pass.config.encoding).unit g :=
      (write v).perform_output nesting g rfl
    rw [performed, raw]
    rcases v.output_raw own asIs nesting (σ := Frame τ) with whole | ⟨empty, left⟩
    · refine .inl ?_
      have once : (Action.writeAll [text] : Action (Frame τ) Unit) = Action.write text :=
        bind_pure _
      rw [whole, once]
    · refine .inr ⟨empty, ?_⟩
      rw [left]
      rfl
  · intro σ _ f put memory raw
    refine ⟨?_, ?_, ?_⟩
    · have wrote := write_returns_shown natural memory own fun _ => ""
      rw [raw] at wrote
      rw [← shownAsIs]
      constructor
      · exact fun delivered => memory.put_injective (wrote.2.symm.trans delivered.2)
      · exact fun same => same ▸ wrote
    · intro head a dynamic
      obtain ⟨fragment, own, shown, added⟩ :=
        attributeValue_returns_shown natural memory own (fun _ => "") dynamic a
      rw [raw] at shown
      refine ⟨fragment, own, ?_, added⟩
      rw [shown, ← shownAsIs]
      simp
    · intro a closed counted
      have closes := endAttribute_returns natural memory closed counted
      rw [raw] at closes
      exact closes

/-- A section of a plain-text template. -/
def plainSection : Frame TextBuffer where
  pass := { Pass.start .raw none with captures := [{ kind := .section "note", text := "x" }] }
  task := { sink := {} }

theorem raw_verbatim_iff_plainSection :
    let nesting := greetingSite.nesting 2
    let put := plainSection.capturing { kind := .section "note", text := "x" } []
    let v : Value := .plain (some "a<b")
    let escaped : Value := .encoded (.marked (.dynamic (some "a<b")))
    v.ownText? = some "a<b" ∧ escaped.ownText? = some "a<b" ∧ InMemory plainSection put ∧
      plainSection.pass.config.encoding = .raw ∧
      (write v).perform nesting plainSection = (Action.write "a<b").unit plainSection ∧
      ((write v).perform nesting plainSection).Returns .unit (put "a<b") ∧
      ¬ ((write escaped).perform nesting plainSection).Returns .unit (put "a<b") ∧
      (∃ fragment : Fragment, fragment.shown .raw = "1" ++ "a<b" ∧
        ((attributeValue { lead := "1" } v).perform nesting
            (plainSection.opened { head := { name := "id" } })).Returns .unit
          (plainSection.opened { head := { name := "id" }, fragments := [fragment] })) ∧
      (endAttribute.perform nesting (plainSection.opened
          { head := { name := "id", opening := "[", closing := "]" } })).Returns .unit
        (put "[]") := by
  intro nesting put v escaped
  have memory : InMemory plainSection put := .captured rfl
  have own : v.ownText? = some "a<b" := rfl
  have ownEscaped : escaped.ownText? = some "a<b" := rfl
  obtain ⟨anywhere, held⟩ := raw_verbatim_iff greetingSite 2 own
  obtain ⟨written, added, closed⟩ := held memory rfl
  obtain ⟨-, heldEscaped⟩ := raw_verbatim_iff greetingSite 2 ownEscaped
  obtain ⟨writtenEscaped, -, -⟩ := heldEscaped memory rfl
  obtain ⟨fragment, -, shown, adds⟩ := added { lead := "1" } { head := { name := "id" } } rfl
  refine ⟨own, ownEscaped, memory, rfl, ?_, written.mpr nofun, fun delivered => ?_,
    ⟨fragment, shown.mpr nofun, adds⟩,
    closed { head := { name := "id", opening := "[", closing := "]" } } rfl rfl⟩
  · rcases anywhere plainSection rfl nofun with whole | ⟨empty, -⟩
    · exact whole
    · exact absurd empty (by decide)
  · exact absurd (writtenEscaped.mp delivered rfl) (by decide)

/-- A plain-text page that writes marked text, alone and in an attribute. -/
def labelPage : Blueprint where
  body := { name := "page", steps := [
    { call := .write (.encoded (.marked (.dynamic (some "a<b")))) },
    { call := .beginAttribute { name := "id", opening := "[", closing := "]", declared := 1 } },
    { call := .attributeValue {} (.encoded (.marked (.dynamic (some "a<b")))) },
    { call := .endAttribute }] }
  config := .raw

/-- Its text is escaped in both places, although the encoding is raw. -/
theorem labelPage_escaped :
    labelPage.config.encoding = .raw ∧
      ((labelPage.renderToBuffer (fun _ => labelPage) 1 none).drive 1 {}).outcome? =
        some (.ok "a&lt;b[a&lt;b]") := by
  decide +kernel

end Call

end Templating
