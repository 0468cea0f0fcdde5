import Templating.Json.Basic
import Templating.Text.Quoted
import Templating.Value.Basic

/-!
# Values made of data

How numbers and JSON documents are written by a template, and how a value is shown to someone who
looks for a fault in a template.
-/

namespace Templating.Value

/-- The fewest digits, and never an exponent. -/
def numberStyle : Decimal.NumberStyle :=
  { tie := .up, positional? := none, wholeEnd := "" }

/-- A floating point number, by its bits. -/
def ofFloat (format : Decimal.BinaryFormat) (bits : Nat) : Value :=
  ofText (numberStyle.write (format.decode bits))

/-- Text as it is, nothing for null, and the compact document of anything else. -/
def ofJson : Json → Value
  | .null => absent
  | .string text => ofText text
  | json => ofText json.write

/-- The value for a reader of diagnostics. -/
def describe : Value → String
  | plain (some text) => "Plain(Some(" ++ Text.quoted text ++ "))"
  | plain none => "Plain(None)"
  | safe text => "Safe(" ++ Text.quoted text ++ ")"
  | encoded _ => "Encoded(..)"
  | template _ => "Template(..)"

end Templating.Value
