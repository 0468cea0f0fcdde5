/-!
# Ranges of characters

A set of code points is given by the ascending list of the places where membership changes: the
first code point in it, the first behind that which is not, and so on.
-/

namespace Templating.Text

/-- Whether a code point lies in the set with these bounds. -/
def inRanges (bounds : Array Nat) (code : Nat) : Bool :=
  bounds.foldl (fun inside bound => if bound ≤ code then !inside else inside) false

end Templating.Text
