import Templating.Decimal.Shortest

/-!
# Number styles

How the digits of a number are laid out as text.
-/

namespace Templating.Decimal

structure NumberStyle where
  tie : Tie
  /-- The least and the greatest exponent of the first digit that are written without an exponent;
  `none` for all. -/
  positional? : Option (Int × Int)
  /-- What follows the digits of a whole number. -/
  wholeEnd : String

namespace NumberStyle

def isPositional (s : NumberStyle) (leading : Int) : Bool :=
  match s.positional? with
  | none => true
  | some (least, greatest) => least ≤ leading && leading ≤ greatest

def zeros (count : Nat) : List Char :=
  List.replicate count '0'

/-- Digits with a point after the first `point` of them. -/
def pointed (s : NumberStyle) (digits : List Char) (point : Int) : List Char :=
  if point ≤ 0 then '0' :: '.' :: zeros (-point).toNat ++ digits
  else if digits.length ≤ point.toNat then
    digits ++ zeros (point.toNat - digits.length) ++ s.wholeEnd.toList
  else digits.take point.toNat ++ '.' :: digits.drop point.toNat

/-- One digit, a point, the other digits, and a signed exponent. -/
def scientific (digits : List Char) (leading : Int) : List Char :=
  let head :=
    match digits with
    | first :: second :: rest => first :: '.' :: second :: rest
    | digits => digits
  let sign := if leading < 0 then '-' else '+'
  head ++ 'e' :: sign :: Nat.toDigits 10 leading.natAbs

def magnitude (s : NumberStyle) (x : Binary) : List Char :=
  let d := x.shortest s.tie
  let digits := Nat.toDigits 10 d.digits
  let leading : Int := d.exponent + digits.length - 1
  if d.digits = 0 then '0' :: s.wholeEnd.toList
  else if s.isPositional leading then s.pointed digits (leading + 1)
  else scientific digits leading

/-- The text of a value. A negative zero keeps its sign. -/
def write (s : NumberStyle) : FloatValue → String
  | .nan => "NaN"
  | .infinite negative => if negative then "-inf" else "inf"
  | .finite negative x =>
    String.ofList (if negative then '-' :: s.magnitude x else s.magnitude x)

end NumberStyle

end Templating.Decimal
