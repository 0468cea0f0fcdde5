import Templating.Proofs.IssuedTexts
import Templating.Template

/-!
# Compositions

A composition is a body that consists of literal markup, values, attribute spans and closed
sections. Its text is defined without frames and captures (`Composition.text`): every part has a
text of its own, a value of unknown safety is encoded once, by the composition that writes it, and
the text of a nested composition is taken as it is.
-/

namespace Templating

/-- Text of unknown safety, as it is written under an encoding. -/
def Encoding.encode : Encoding → String → String
  | html, text => Escape.escape text
  | raw, text => text

/-- What a value comes to when it is written; `nested` gives the texts of other templates. -/
def Value.shown (nested : String → String) (encoding : Encoding) : Value → String
  | plain none => ""
  | plain (some text) => encoding.encode text
  | safe text => text
  | encoded (.html text) => text.text
  | encoded (.marked text) => if text.safe then text.text else Encoding.html.encode text.text
  | encoded (.template name) | template name => nested name

namespace Composition

/-- A fragment of an attribute span. Literal fragments are markup. -/
structure Part where
  head : FragmentHead
  value : Value
  deriving DecidableEq, Repr

namespace Part

def shown (nested : String → String) (encoding : Encoding) (p : Part) : String :=
  p.head.lead ++ p.value.shown nested (if p.head.literal then .raw else encoding)

def isPresent (nested : String → String) (p : Part) : Bool :=
  p.head.literal || !(p.value.shown nested .raw).isEmpty

end Part

inductive Piece where
  | literal (text : String)
  | literalAsync (text : String)
  | value (v : Value)
  | templateAsync (name : String)
  | span (head : AttributeHead) (parts : List Part)
  deriving DecidableEq, Repr

namespace Piece

def calls : Piece → List Call
  | literal text => [.literal text]
  | literalAsync text => [.literalAsync text]
  | value v => [.write v]
  | templateAsync name => [.templateAsync name]
  | span head parts =>
    .beginAttribute head :: parts.map (fun p => .attributeValue p.head p.value) ++ [.endAttribute]

/-- A span is written whole, or left out because all that it has is absent. -/
def shown (nested : String → String) (encoding : Encoding) : Piece → String
  | literal text | literalAsync text => text
  | value v => v.shown nested encoding
  | templateAsync name => nested name
  | span head parts =>
    if parts.isEmpty || parts.any (·.isPresent nested) then
      head.opening ++ String.join (parts.map (·.shown nested encoding)) ++ head.closing
    else ""

end Piece

inductive Item where
  | piece (p : Piece)
  | closedSection (name : String) (pieces : List Piece)
  deriving DecidableEq, Repr

namespace Item

def calls : Item → List Call
  | piece p => p.calls
  | closedSection name pieces =>
    .beginSection name :: pieces.flatMap Piece.calls ++ [.endSection]

/-- Without a layout the text of a section is left out. -/
def shown (nested : String → String) (encoding : Encoding) : Item → String
  | piece p => p.shown nested encoding
  | closedSection _ _ => ""

end Item

end Composition

structure Composition where
  name : String := ""
  items : List Composition.Item
  config : Config := {}
  deriving DecidableEq, Repr

namespace Composition

/-- The template whose body makes the calls of the items; every failure ends it. -/
def blueprint (c : Composition) : Blueprint where
  body := { name := c.name, steps := (c.items.flatMap Item.calls).map ({ call := · }) }
  config := c.config

/-- The text of a composition whose references are no longer than `depth`. -/
def text (compositions : String → Composition) : Nat → Composition → String
  | 0, _ => ""
  | depth + 1, c =>
    String.join (c.items.map
      (·.shown (fun name => text compositions depth (compositions name)) c.config.encoding))

end Composition

theorem Escape.join_pieces (text : String) : String.join (pieces text) = escape text := by
  apply String.toList_injective
  rw [String.toList_join, ← flatten_pieces, List.flatMap_def]

theorem Escape.escapeChar_ne_nil (c : Char) : escapeChar c ≠ [] := by
  unfold escapeChar entity?
  split
  · next entity found => split at found <;> cases found <;> decide
  · simp

theorem Escape.escape_isEmpty (text : String) : (escape text).isEmpty = text.isEmpty := by
  rw [Bool.eq_iff_iff, String.isEmpty_iff, String.isEmpty_iff, escape]
  constructor
  · intro empty
    have none : text.toList.flatMap escapeChar = [] := by
      simpa using congrArg String.toList empty
    cases chars : text.toList with
    | nil => exact String.toList_injective chars
    | cons c rest =>
      rw [chars, List.flatMap_cons, List.append_eq_nil_iff] at none
      exact absurd none.1 (escapeChar_ne_nil c)
  · rintro rfl
    rfl

theorem Encoding.encode_empty (encoding : Encoding) : encoding.encode "" = "" := by
  cases encoding <;> rfl

theorem Encoding.encode_isEmpty (encoding : Encoding) (text : String) :
    (encoding.encode text).isEmpty = text.isEmpty := by
  cases encoding with
  | html => exact Escape.escape_isEmpty text
  | raw => rfl

namespace MarkedText

/-- The text in the form in which it is written. -/
def shown (t : MarkedText) (encoding : Encoding) : String :=
  if t.safe then t.text else encoding.encode t.text

theorem shown_isEmpty (t : MarkedText) (encoding : Encoding) :
    (t.shown encoding).isEmpty = t.isAbsent := by
  unfold shown
  split
  · rfl
  · exact encoding.encode_isEmpty t.text

theorem join_portions (t : MarkedText) (encoding : Encoding) :
    String.join (t.portions encoding) = t.shown encoding := by
  unfold portions shown
  by_cases absent : t.isAbsent = true
  · have empty : t.text = "" := by simpa [isAbsent] using absent
    simp [absent, empty, Encoding.encode_empty]
  · simp only [absent, Bool.false_eq_true, if_false]
    split
    · simp
    · cases encoding with
      | html => exact Escape.join_pieces t.text
      | raw => simp [Escape.portions, Encoding.encode]

end MarkedText

/-- A fragment in the form in which it is written: a literal value is written as it is. -/
def Fragment.shown (f : Fragment) (encoding : Encoding) : String :=
  f.head.lead ++ if f.head.literal then f.value.text else f.value.shown encoding

theorem Fragment.join_portions (f : Fragment) (encoding : Encoding) :
    String.join (f.portions encoding) = f.shown encoding := by
  have lead : String.join (if f.head.lead.isEmpty then [] else [f.head.lead]) = f.head.lead := by
    by_cases empty : f.head.lead = "" <;> simp [empty]
  have value : String.join (f.valuePortions encoding) =
      if f.head.literal then f.value.text else f.value.shown encoding := by
    unfold Fragment.valuePortions
    by_cases literal : f.head.literal = true
    · simp [literal]
    · simp [literal, MarkedText.join_portions]
  rw [portions, String.join_append, lead, value]
  rfl

/-- A whole attribute in the form in which it is written. -/
def Attribute.shown (a : Attribute) (encoding : Encoding) : String :=
  a.head.opening ++ String.join (a.fragments.map (·.shown encoding)) ++ a.head.closing

theorem Attribute.join_portions (a : Attribute) (encoding : Encoding) :
    String.join (a.portions encoding) = a.shown encoding := by
  have fragments : String.join (a.fragments.flatMap (·.portions encoding)) =
      String.join (a.fragments.map (·.shown encoding)) := by
    induction a.fragments with
    | nil => rfl
    | cons f rest ih => simp [String.join_append, ih, f.join_portions]
  simp [portions, shown, fragments, String.append_assoc]

theorem AttributeWriter.close_snd (w : AttributeWriter) :
    w.close.2 = { w with pending := none } := by
  unfold close
  dsimp only
  split
  · rfl
  · split
    · rfl
    · split <;> rfl

namespace Value

/-- What the value is as a fragment of a span. -/
def marked (texts : String → String) : Value → MarkedText
  | plain text? => .dynamic text?
  | safe text => .raw text
  | encoded content => .raw ((encoded content).shown texts .raw)
  | template name => .raw (texts name)

theorem marked_text (texts : String → String) (v : Value) :
    (v.marked texts).text = v.shown texts .raw := by
  cases v with
  | plain text? => cases text? <;> rfl
  | safe text => rfl
  | encoded content => rfl
  | template name => rfl

theorem marked_shown (texts : String → String) (v : Value) (encoding : Encoding) :
    (v.marked texts).shown encoding = v.shown texts encoding := by
  cases v with
  | plain text? =>
    cases text? with
    | none => exact encoding.encode_empty
    | some text => rfl
  | safe text => rfl
  | encoded content => cases content <;> rfl
  | template name => rfl

end Value

namespace Composition.Part

def fragment (texts : String → String) (p : Part) : Fragment where
  head := p.head
  value := p.value.marked texts

theorem fragment_shown (texts : String → String) (encoding : Encoding) (p : Part) :
    (p.fragment texts).shown encoding = p.shown texts encoding := by
  by_cases literal : p.head.literal = true <;>
    simp [Fragment.shown, shown, fragment, literal, Value.marked_text, Value.marked_shown]

theorem fragment_isPresent (texts : String → String) (p : Part) :
    (p.fragment texts).isPresent = p.isPresent texts := by
  simp [Fragment.isPresent, isPresent, fragment, MarkedText.isAbsent, Value.marked_text]

/-- A span comes to what its attribute comes to. -/
theorem span_shown (texts : String → String) (encoding : Encoding) (head : AttributeHead)
    (parts : List Part) :
    let a : Attribute := { head, fragments := parts.map (·.fragment texts) }
    (if a.isWritten then String.join (a.portions encoding) else "") =
      (Piece.span head parts).shown texts encoding := by
  intro a
  have written : a.isWritten = (parts.isEmpty || parts.any (·.isPresent texts)) := by
    simp [a, Attribute.isWritten, Function.comp_def, fragment_isPresent]
  rw [written, Piece.shown]
  split
  · simp [Attribute.join_portions, Attribute.shown, a, Function.comp_def, fragment_shown]
  · rfl

end Composition.Part

end Templating
