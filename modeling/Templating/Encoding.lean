/-!
# Output encodings

The two ways in which a template writes a value of unknown safety.
-/

namespace Templating

inductive Encoding where
  | html | raw
  deriving DecidableEq, Repr, Inhabited

namespace Encoding

def name : Encoding → String
  | html => "html"
  | raw => "raw"

def ofName? : String → Option Encoding
  | "html" => some html
  | "raw" => some raw
  | _ => none

theorem ofName?_name (e : Encoding) : ofName? e.name = some e := by
  cases e <;> rfl

end Encoding

end Templating
