import Mathlib.Data.List.Forall2
import Templating.Pass
import Templating.Proofs.CallOutput
import Templating.Proofs.Composition
import Templating.Proofs.ParallelRuns

/-!
# Passes that differ in dynamic text

Markup are the characters that open or close a tag or an attribute. Two texts have the same markup
if it is the same in both, in order, and neither is empty unless both are. Escaped text has none.
Two passes are alike if all texts that they keep have the same markup and they agree in everything
else. Whatever happens to alike passes, they stay alike: nothing of a pass depends on a text but
whether it is empty.
-/

namespace Templating

variable {σ τ : Type}

/-- A character that opens or closes a tag or the value of an attribute. -/
def isMarkup (c : Char) : Bool :=
  c == '<' || c == '>' || c == '"' || c == '\''

def markup (text : String) : List Char :=
  text.toList.filter isMarkup

structure SameMarkup (s t : String) : Prop where
  markup : markup s = markup t
  blank : s.isEmpty = t.isEmpty

namespace SameMarkup

theorem refl (s : String) : SameMarkup s s :=
  ⟨rfl, rfl⟩

theorem append {s t s' t' : String} (first : SameMarkup s t) (later : SameMarkup s' t') :
    SameMarkup (s ++ s') (t ++ t') := by
  constructor
  · simp only [Templating.markup, String.toList_append, List.filter_append]
    exact congrArg₂ (· ++ ·) first.markup later.markup
  · rw [isEmpty_append, isEmpty_append, first.blank, later.blank]

theorem join_append {l l' m m' : List String}
    (first : SameMarkup (String.join l) (String.join l'))
    (later : SameMarkup (String.join m) (String.join m')) :
    SameMarkup (String.join (l ++ m)) (String.join (l' ++ m')) := by
  rw [String.join_append, String.join_append]
  exact first.append later

theorem join_flatMap {α β : Type} {R : α → β → Prop} {f : α → List String} {g : β → List String}
    {l : List α} {m : List β}
    (each : ∀ a b, R a b → SameMarkup (String.join (f a)) (String.join (g b)))
    (alike : List.Forall₂ R l m) :
    SameMarkup (String.join (l.flatMap f)) (String.join (m.flatMap g)) := by
  induction alike with
  | nil => exact .refl _
  | cons first later ih =>
    rw [List.flatMap_cons, List.flatMap_cons]
    exact join_append (each _ _ first) ih

end SameMarkup

namespace Escape

theorem filter_escapeChar (c : Char) : (escapeChar c).filter isMarkup = [] := by
  unfold escapeChar
  cases found : entity? c with
  | some entity =>
    unfold entity? at found
    split at found <;> cases found <;> decide
  | none =>
    have plain : isMarkup c = false := by
      unfold entity? at found
      unfold isMarkup
      split at found <;> simp_all
    simp [plain]

theorem markup_escape (text : String) : markup (escape text) = [] := by
  rw [markup, escape, String.toList_ofList, List.filter_flatMap, List.flatMap_eq_nil_iff]
  exact fun c _ => filter_escapeChar c

/-- Of a text that is escaped only its emptiness is left. -/
theorem sameMarkup {s t : String} (blank : s.isEmpty = t.isEmpty) :
    SameMarkup (escape s) (escape t) :=
  ⟨(markup_escape s).trans (markup_escape t).symm,
    (escape_isEmpty s).trans (blank.trans (escape_isEmpty t).symm)⟩

end Escape

/-- Marked texts that agree in whether they are absent, and, if they are safe, in their markup. -/
structure MarkedText.Alike (t u : MarkedText) : Prop where
  safe : t.safe = u.safe
  absent : t.isAbsent = u.isAbsent
  text : t.safe = true → SameMarkup t.text u.text

namespace MarkedText.Alike

theorem refl (t : MarkedText) : t.Alike t :=
  ⟨rfl, rfl, fun _ => .refl _⟩

theorem raw {s t : String} (same : SameMarkup s t) : (MarkedText.raw s).Alike (.raw t) :=
  ⟨rfl, same.blank, fun _ => same⟩

theorem portions {t u : MarkedText} (alike : t.Alike u) :
    SameMarkup (String.join (t.portions .html)) (String.join (u.portions .html)) := by
  rw [join_portions, join_portions, MarkedText.shown, MarkedText.shown, ← alike.safe]
  split
  · next safe => exact alike.text safe
  · exact Escape.sameMarkup alike.absent

end MarkedText.Alike

/-- Fragments with the same head; a literal value is written as it is. -/
structure Fragment.Alike (f g : Fragment) : Prop where
  head : f.head = g.head
  value : f.value.Alike g.value
  literal : f.head.literal = true → SameMarkup f.value.text g.value.text

namespace Fragment.Alike

variable {f g : Fragment}

theorem isPresent (alike : f.Alike g) : f.isPresent = g.isPresent := by
  rw [Fragment.isPresent, Fragment.isPresent, alike.head, alike.value.absent]

theorem portions (alike : f.Alike g) :
    SameMarkup (String.join (f.portions .html)) (String.join (g.portions .html)) := by
  unfold Fragment.portions
  rw [alike.head]
  refine SameMarkup.join_append (.refl _) ?_
  unfold Fragment.valuePortions
  rw [alike.head]
  split
  · next literal =>
    have same := alike.literal (alike.head ▸ literal)
    simpa using same
  · exact alike.value.portions

end Fragment.Alike

structure Attribute.Alike (a b : Attribute) : Prop where
  head : a.head = b.head
  fragments : List.Forall₂ Fragment.Alike a.fragments b.fragments

namespace Attribute.Alike

variable {a b : Attribute}

theorem miscounted (alike : a.Alike b) : a.miscounted = b.miscounted := by
  rw [Attribute.miscounted, Attribute.miscounted, alike.fragments.length_eq, alike.head]

/-- It is decided alike whether the attribute is written. -/
theorem isWritten (alike : a.Alike b) : a.isWritten = b.isWritten := by
  have decided : ∀ {l m : List Fragment}, List.Forall₂ Fragment.Alike l m →
      (l.isEmpty || l.any Fragment.isPresent) = (m.isEmpty || m.any Fragment.isPresent) := by
    intro l m all
    have present : l.any Fragment.isPresent = m.any Fragment.isPresent := by
      induction all with
      | nil => rfl
      | cons first later ih => rw [List.any_cons, List.any_cons, first.isPresent, ih]
    cases all with
    | nil => rfl
    | cons first later => exact present
  exact decided alike.fragments

theorem portions (alike : a.Alike b) :
    SameMarkup (String.join (a.portions .html)) (String.join (b.portions .html)) := by
  have fragments := SameMarkup.join_flatMap (fun f g (same : Fragment.Alike f g) => same.portions)
    alike.fragments
  unfold Attribute.portions
  rw [alike.head]
  exact @SameMarkup.join_append _ _ [b.head.closing] [b.head.closing]
    (@SameMarkup.join_append [b.head.opening] _ _ _ (.refl _) fragments) (.refl _)

end Attribute.Alike

structure AttributeWriter.Alike (w v : AttributeWriter) : Prop where
  strict : w.strict = v.strict
  pending : Option.Rel Attribute.Alike w.pending v.pending

/-- What closing alike attributes comes to. -/
inductive Closing.Alike : Closing → Closing → Prop
  | refused (m : Misuse) : Alike (.refused m) (.refused m)
  | leftOut {a b : Attribute} (alike : a.Alike b) : Alike (.leftOut a) (.leftOut b)
  | written {a b : Attribute} (alike : a.Alike b) : Alike (.written a) (.written b)

/-- Two changes are refused for the same reason, or come to values that belong together. -/
inductive Except.Alike {ε α β : Type} (same : α → β → Prop) : Except ε α → Except ε β → Prop
  | ok {a : α} {b : β} (values : same a b) : Alike same (.ok a) (.ok b)
  | error (e : ε) : Alike same (.error e) (.error e)

namespace AttributeWriter.Alike

variable {w v : AttributeWriter}

theorem start (alike : w.Alike v) (head : AttributeHead) :
    Except.Alike AttributeWriter.Alike (w.start head) (v.start head) := by
  obtain ⟨strict, pending⟩ := w
  obtain ⟨strict', pending'⟩ := v
  obtain ⟨rfl, pendings⟩ := alike
  cases pendings with
  | none =>
    unfold AttributeWriter.start
    cases head.hasRoom with
    | false => exact .error _
    | true => exact .ok ⟨rfl, .some ⟨rfl, .nil⟩⟩
  | some same =>
    simp only [AttributeWriter.start, same.head]
    exact .error _

theorem add (alike : w.Alike v) {f g : Fragment} (fragments : f.Alike g) :
    Except.Alike AttributeWriter.Alike (w.add f) (v.add g) := by
  obtain ⟨strict, pending⟩ := w
  obtain ⟨strict', pending'⟩ := v
  obtain ⟨rfl, pendings⟩ := alike
  cases pendings with
  | none => exact .error _
  | some same =>
    exact .ok ⟨rfl, .some ⟨same.head, List.rel_append same.fragments (.cons fragments .nil)⟩⟩

theorem close (alike : w.Alike v) : w.close.1.Alike v.close.1 ∧ w.close.2.Alike v.close.2 := by
  obtain ⟨strict, pending⟩ := w
  obtain ⟨strict', pending'⟩ := v
  obtain ⟨rfl, pendings⟩ := alike
  cases pendings with
  | none => exact ⟨.refused _, rfl, .none⟩
  | some same =>
    unfold AttributeWriter.close
    dsimp only
    rw [same.miscounted, same.isWritten, same.head, same.fragments.length_eq]
    split
    · exact ⟨.refused _, rfl, .none⟩
    · split
      · exact ⟨.written same, rfl, .none⟩
      · exact ⟨.leftOut same, rfl, .none⟩

end AttributeWriter.Alike

structure Capture.Alike (c d : Capture) : Prop where
  kind : c.kind = d.kind
  text : SameMarkup c.text d.text

/-- Sections of the same name. -/
structure AlikeSections (x y : String × String) : Prop where
  name : x.1 = y.1
  text : SameMarkup x.2 y.2

structure LayoutInput.Alike (i j : LayoutInput) : Prop where
  body : SameMarkup i.body j.body
  sections : List.Forall₂ AlikeSections i.sections j.sections
  bodyRendered : i.bodyRendered = j.bodyRendered

structure LayoutCall.Alike (c d : LayoutCall) : Prop where
  layout : c.layout = d.layout
  input : c.input.Alike d.input

structure Pass.Alike (p q : Pass) : Prop where
  config : p.config = q.config
  html : q.config.encoding = .html
  writer : p.writer.Alike q.writer
  captures : List.Forall₂ Capture.Alike p.captures q.captures
  layout : p.layout? = q.layout?
  sections : List.Forall₂ AlikeSections p.sections q.sections
  input : Option.Rel LayoutInput.Alike p.input? q.input?
  written : p.written = q.written

/-- Alike sections have the same names, and alike texts under each. -/
theorem AlikeSections.lookup {l m : List (String × String)} (alike : List.Forall₂ AlikeSections l m)
    (name : String) : Option.Rel SameMarkup (l.lookup name) (m.lookup name) := by
  induction alike with
  | nil => exact .none
  | @cons x y l m first later ih =>
    obtain ⟨key, text⟩ := x
    obtain ⟨key', text'⟩ := y
    obtain ⟨names, same⟩ := first
    dsimp only at names
    subst names
    rw [List.lookup_cons, List.lookup_cons]
    cases name == key with
    | true => exact .some same
    | false => exact ih

namespace Pass.Alike

variable {p q : Pass}

theorem start {config : Config} (html : config.encoding = .html) {i j : Option LayoutInput}
    (inputs : Option.Rel LayoutInput.Alike i j) :
    (Pass.start config i).Alike (.start config j) where
  config := rfl
  html := html
  writer := ⟨rfl, .none⟩
  captures := .nil
  layout := rfl
  sections := .nil
  input := inputs
  written := rfl

theorem captures_eq_nil (alike : p.Alike q) : p.captures = [] ↔ q.captures = [] := by
  rw [← List.length_eq_zero_iff, alike.captures.length_eq, List.length_eq_zero_iff]

/-- Alike captures are of the same kinds. -/
theorem map_kind (alike : p.Alike q) :
    p.captures.map Capture.kind = q.captures.map Capture.kind := by
  have kinds : ∀ {l m : List Capture}, List.Forall₂ Capture.Alike l m →
      l.map Capture.kind = m.map Capture.kind := by
    intro l m all
    induction all with
    | nil => rfl
    | cons first later ih => rw [List.map_cons, List.map_cons, first.kind, ih]
  exact kinds alike.captures

theorem capturesBody (alike : p.Alike q) : p.capturesBody = q.capturesBody := by
  have last : ∀ p : Pass, p.capturesBody =
      ((p.captures.map Capture.kind).getLast?.any (· == .body)) := by
    intro p
    rw [Pass.capturesBody, List.getLast?_map]
    cases p.captures.getLast? <;> rfl
  rw [last, last, alike.map_kind]

theorem openSection? (alike : p.Alike q) : p.openSection? = q.openSection? := by
  have captures := alike.captures
  unfold Pass.openSection?
  generalize p.captures = l, q.captures = m at captures ⊢
  induction captures with
  | nil => rfl
  | cons first later ih => rw [List.findSome?_cons, List.findSome?_cons, first.kind, ih]

theorem definesSection (alike : p.Alike q) (name : String) :
    p.definesSection name = q.definesSection name := by
  have found := AlikeSections.lookup alike.sections name
  unfold Pass.definesSection
  generalize p.sections.lookup name = text, q.sections.lookup name = text' at found ⊢
  cases found <;> rfl

theorem isSectionDefined (alike : p.Alike q) (name : String) :
    p.isSectionDefined name = q.isSectionDefined name := by
  have inputs := alike.input
  unfold Pass.isSectionDefined
  generalize p.input? = i, q.input? = j at inputs ⊢
  cases inputs with
  | none => rfl
  | @some i j same =>
    have found := AlikeSections.lookup same.sections name
    dsimp only
    generalize i.sections.lookup name = text, j.sections.lookup name = text' at found ⊢
    cases found <;> rfl

/-- Alike passes take texts that are alike as a whole, in whatever pieces. -/
theorem takeAll (alike : p.Alike q) {texts texts' : List String}
    (same : SameMarkup (String.join texts) (String.join texts')) :
    (p.takeAll texts).Alike (q.takeAll texts') := by
  cases here : p.captures with
  | nil =>
    have direct : q.captures = [] := alike.captures_eq_nil.mp here
    rw [p.takeAll_direct texts here, q.takeAll_direct texts' direct]
    refine { alike with written := ?_ }
    rw [alike.written, any_nonempty, any_nonempty, same.blank]
  | cons c rest =>
    have captures := alike.captures
    rw [here] at captures
    obtain ⟨d, rest', first, later, there⟩ := List.forall₂_cons_left_iff.mp captures
    rw [p.takeAll_captured texts here, q.takeAll_captured texts' there]
    exact { alike with captures := .cons ⟨first.kind, first.text.append same⟩ later }

theorem setLayout (alike : p.Alike q) (name : String) :
    Except.Alike Pass.Alike (p.setLayout name) (q.setLayout name) := by
  unfold Pass.setLayout
  rw [alike.written, alike.capturesBody]
  split
  · exact .error _
  · refine .ok { alike with captures := ?_, layout := rfl, written := rfl }
    split
    · exact alike.captures
    · exact List.rel_append alike.captures (.cons ⟨rfl, .refl _⟩ .nil)

theorem beginSection (alike : p.Alike q) (name : String) :
    Outcome.Alike Pass.Alike (p.beginSection name) (q.beginSection name) := by
  unfold Pass.beginSection
  rw [alike.openSection?]
  split
  · exact .misused _
  · rw [alike.definesSection]
    split
    · exact .failed _
    · exact .ok { alike with captures := .cons ⟨rfl, .refl _⟩ alike.captures }

theorem endSection (alike : p.Alike q) :
    p.endSection.1 = q.endSection.1 ∧ p.endSection.2.Alike q.endSection.2 := by
  have captures := alike.captures
  unfold Pass.endSection
  generalize here : p.captures = l, there : q.captures = m at captures ⊢
  cases captures with
  | nil => exact ⟨rfl, alike⟩
  | cons first later =>
    dsimp only
    rw [first.kind]
    split
    · refine ⟨rfl, { alike with captures := later, sections := ?_ }⟩
      exact .cons ⟨rfl, first.text⟩ alike.sections
    · exact ⟨rfl, { alike with captures := later }⟩

theorem unfinished? (alike : p.Alike q) : p.unfinished? = q.unfinished? := by
  have pending := alike.writer.pending
  have inputs := alike.input
  unfold Pass.unfinished?
  rw [alike.openSection?, alike.config]
  generalize p.writer.pending = a, q.writer.pending = b at pending ⊢
  cases pending with
  | some same => simp only [same.head]
  | none =>
    cases q.openSection? with
    | some name => rfl
    | none =>
      dsimp only
      generalize p.input? = i, q.input? = j at inputs ⊢
      cases inputs with
      | none => rfl
      | some same => simp only [same.bodyRendered]

theorem bodyText (alike : p.Alike q) : SameMarkup p.bodyText q.bodyText := by
  have captures := alike.captures
  unfold Pass.bodyText
  generalize p.captures = l, q.captures = m at captures ⊢
  cases captures with
  | nil => exact .refl _
  | @cons c d _ _ first later =>
    obtain ⟨kind, text⟩ := c
    obtain ⟨kind', text'⟩ := d
    obtain ⟨rfl, same⟩ := first
    cases kind with
    | body => exact same
    | «section» name => exact .refl _

theorem next? (alike : p.Alike q) : Option.Rel LayoutCall.Alike p.next? q.next? := by
  unfold Pass.next?
  rw [alike.layout]
  cases q.layout? with
  | none => exact .none
  | some layout => exact .some ⟨rfl, alike.bodyText, alike.sections, rfl⟩

end Pass.Alike

end Templating
