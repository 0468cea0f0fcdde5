/-!
# Binary floating point

The value that a bit pattern stands for, in any of the IEEE formats: a natural number times a power
of two, with a sign, or one of the values that are no numbers.
-/

namespace Templating.Decimal

/-- The widths of the fields of a format. -/
structure BinaryFormat where
  exponentBits : Nat
  fractionBits : Nat
  deriving DecidableEq, Repr

def single : BinaryFormat :=
  ⟨8, 23⟩

def double : BinaryFormat :=
  ⟨11, 52⟩

/-- `significand * 2 ^ exponent`. The gap to the value below is half the gap above when
`narrowBelow` holds. -/
structure Binary where
  significand : Nat
  exponent : Int
  narrowBelow : Bool
  deriving DecidableEq, Repr

inductive FloatValue where
  | nan
  | infinite (negative : Bool)
  | finite (negative : Bool) (magnitude : Binary)
  deriving DecidableEq, Repr

namespace BinaryFormat

def bias (f : BinaryFormat) : Nat :=
  (1 <<< (f.exponentBits - 1)) - 1

/-- Bits beyond the width of the format are ignored. -/
def decode (f : BinaryFormat) (bits : Nat) : FloatValue :=
  let fraction := bits % (1 <<< f.fractionBits)
  let exponent := (bits >>> f.fractionBits) % (1 <<< f.exponentBits)
  let negative := (bits >>> (f.fractionBits + f.exponentBits)) % 2 == 1
  let lowest : Int := 1 - (f.bias + f.fractionBits : Nat)
  if exponent = (1 <<< f.exponentBits) - 1 then
    if fraction = 0 then .infinite negative else .nan
  else if exponent = 0 then .finite negative ⟨fraction, lowest, false⟩
  else
    .finite negative
      ⟨(1 <<< f.fractionBits) + fraction, lowest + (exponent - 1), fraction == 0 && exponent != 1⟩

end BinaryFormat

end Templating.Decimal
