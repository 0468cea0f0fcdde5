import Templating.MarkedText

/-!
# Values

What a template can write: text of unknown safety, safe text, content that writes itself, and
other templates, which are known by name.
-/

namespace Templating

/-- Content that writes itself and is never escaped by the template it is written into. -/
inductive Content where
  | html (text : SafeText)
  | marked (text : MarkedText)
  | template (name : String)
  deriving DecidableEq, Repr, Inhabited

inductive Value where
  /-- Escaped when it is written; `none` is the absent value. -/
  | plain (text? : Option String)
  | safe (text : String)
  | encoded (content : Content)
  | template (name : String)
  deriving DecidableEq, Repr, Inhabited

namespace Value

def absent : Value :=
  plain none

def ofText (text : String) : Value :=
  plain (some text)

def ofBool (b : Bool) : Value :=
  ofText (if b then "true" else "false")

def ofChar (c : Char) : Value :=
  ofText (String.singleton c)

def ofInt : Int → Value
  | .ofNat n => ofText n.repr
  | .negSucc n => ofText ("-" ++ (n + 1).repr)

def ofSafeText (t : SafeText) : Value :=
  safe t.text

/-- The text that the value itself holds. -/
def text? : Value → Option String
  | plain text? => text?
  | safe text => some text
  | encoded _ | template _ => none

end Value

end Templating
