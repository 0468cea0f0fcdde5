import Templating.Escape

/-!
# Marked text

Text together with the decision whether it may be written as it is. Markup that a template
contains, and output that was already rendered, is safe; a dynamic value is escaped when it is
written, unless it was marked as safe. A dynamic value may be missing.
-/

namespace Templating

/-- Text that is safe to write without escaping. -/
structure SafeText where
  text : String := ""
  deriving DecidableEq, Repr, Inhabited

namespace SafeText

def isEmpty (t : SafeText) : Bool :=
  t.text.isEmpty

/-- Safe text is one portion, even when it is empty. -/
def portions (t : SafeText) : List String :=
  [t.text]

end SafeText

structure MarkedText where
  text? : Option String
  safe : Bool
  deriving DecidableEq, Repr, Inhabited

namespace MarkedText

def raw (text : String) : MarkedText :=
  ⟨some text, true⟩

def dynamic (text? : Option String) : MarkedText :=
  ⟨text?, false⟩

def markSafe (t : MarkedText) : MarkedText :=
  { t with safe := true }

/-- The text before any escaping; a missing value has none. -/
def text (t : MarkedText) : String :=
  t.text?.getD ""

/-- Missing and empty values are absent. -/
def isAbsent (t : MarkedText) : Bool :=
  t.text.isEmpty

/-- The portions in which the text is written. Nothing is written for an absent value. -/
def portions (t : MarkedText) (encoding : Encoding) : List String :=
  if t.isAbsent then []
  else if t.safe then [t.text]
  else Escape.portions encoding t.text

/-- Marked text that stands on its own, outside any template, is escaped as HTML. -/
def contentPortions (t : MarkedText) : List String :=
  t.portions .html

end MarkedText

end Templating
