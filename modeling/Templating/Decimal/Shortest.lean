import Templating.Decimal.Binary

/-!
# Shortest decimals

A decimal reads back as a binary value when it lies in the interval of the reals that round to that
value; the ends belong to it when the significand is even. `shortest` looks for the coarsest decimal
grid with a point in the interval, and takes the point closest to the value. All of it is exact
arithmetic on natural numbers.
-/

namespace Templating.Decimal

/-- `digits * 10 ^ exponent` -/
structure Scaled where
  digits : Nat
  exponent : Int
  deriving DecidableEq, Repr

/-- Which of two points that are equally close is taken. -/
inductive Tie where
  | toEven | up
  deriving DecidableEq, Repr

/-- Compares `a * 10 ^ i` with `n * 2 ^ j`. -/
def compareScaled (a : Nat) (i : Int) (n : Nat) (j : Int) : Ordering :=
  compare ((a * Nat.pow 10 i.toNat) <<< (-j).toNat) ((n * Nat.pow 10 (-i).toNat) <<< j.toNat)

/-- Whether a decimal lies among the reals that round to `x`. -/
def Binary.readsBack (x : Binary) (d : Scaled) : Bool :=
  let low := if x.narrowBelow then 4 * x.significand - 1 else 4 * x.significand - 2
  let high := 4 * x.significand + 2
  let closed := x.significand % 2 == 0
  let atLow := compareScaled d.digits d.exponent low (x.exponent - 2)
  let atHigh := compareScaled d.digits d.exponent high (x.exponent - 2)
  (atLow == .gt || (closed && atLow == .eq)) && (atHigh == .lt || (closed && atHigh == .eq))

/-- The greatest grid point at `10 ^ i` that is not above `x`. -/
def Binary.floorAt (x : Binary) (i : Int) : Nat :=
  ((x.significand * Nat.pow 10 (-i).toNat) <<< x.exponent.toNat) /
    (Nat.pow 10 i.toNat <<< (-x.exponent).toNat)

/-- The closer of two neighbours on the grid that both read back. -/
def Binary.closer (x : Binary) (tie : Tie) (low : Nat) (i : Int) : Nat :=
  match compareScaled (2 * low + 1) i (2 * x.significand) x.exponent with
  | .gt => low
  | .lt => low + 1
  | .eq =>
    match tie with
    | .up => low + 1
    | .toEven => if low % 2 = 0 then low else low + 1

/-- The point of the grid at `10 ^ i` that stands for `x`, if there is one. -/
def Binary.pick? (x : Binary) (tie : Tie) (i : Int) : Option Scaled :=
  let low := x.floorAt i
  match x.readsBack ⟨low, i⟩, x.readsBack ⟨low + 1, i⟩ with
  | true, true => some ⟨x.closer tie low i, i⟩
  | true, false => some ⟨low, i⟩
  | false, true => some ⟨low + 1, i⟩
  | false, false => none

/-- The least `k` with `x < 10 ^ k`, searched upwards from a lower bound. -/
def Binary.scaleFrom (x : Binary) : Nat → Int → Int
  | 0, k => k
  | fuel + 1, k =>
    if compareScaled 1 k x.significand x.exponent == .gt then k else scaleFrom x fuel (k + 1)

/-- The value lies below `10 ^ scale`, and not below a tenth of that. -/
def Binary.scale (x : Binary) : Int :=
  let binary : Int := x.significand.log2 + x.exponent
  x.scaleFrom 4 (binary * 30103 / 100000 - 1)

/-- Tries grids of more and more digits. -/
def Binary.search (x : Binary) (tie : Tie) : Nat → Int → Option Scaled
  | 0, _ => none
  | more + 1, i =>
    match x.pick? tie i with
    | some d => some d
    | none => search x tie more (i - 1)

/-- The exact value; it is taken when no grid of seventeen digits has a point that reads back. -/
def Binary.exact (x : Binary) : Scaled :=
  if x.exponent < 0 then ⟨x.significand * Nat.pow 5 (-x.exponent).toNat, x.exponent⟩
  else ⟨x.significand <<< x.exponent.toNat, 0⟩

/-- Moves zeros at the end of the digits into the exponent. -/
def Scaled.strip (d : Scaled) : Nat → Scaled
  | 0 => d
  | fuel + 1 =>
    if d.digits % 10 = 0 && d.digits != 0 then
      strip ⟨d.digits / 10, d.exponent + 1⟩ fuel
    else d

/-- The fewest digits that read back as `x`, and of those the closest. -/
def Binary.shortest (x : Binary) (tie : Tie) : Scaled :=
  if x.significand = 0 then ⟨0, 0⟩
  else
    let d := (x.search tie 17 (x.scale - 1)).getD x.exact
    d.strip d.digits.log2

end Templating.Decimal
