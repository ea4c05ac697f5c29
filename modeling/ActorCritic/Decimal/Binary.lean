/-!
Binary floating-point numbers taken apart into whole numbers, so that their decimal text can be
found with exact arithmetic.
-/

namespace ActorCritic
namespace Decimal

/-- The finite number `mantissa * 2 ^ exponent` up to sign. The gap to the next smaller number
is half as wide as the gap to the next larger one when `lowerGapHalved`. -/
structure Magnitude where
  mantissa : Nat
  exponent : Int
  lowerGapHalved : Bool
deriving DecidableEq, Repr

inductive Binary where
  | nan
  | infinite (negative : Bool)
  | finite (negative : Bool) (magnitude : Magnitude)
deriving DecidableEq, Repr

namespace Magnitude

def isZero (x : Magnitude) : Bool := x.mantissa == 0

/-- Numerator over the denominator `x.denominator`. -/
def numerator (x : Magnitude) : Nat := x.mantissa * Nat.pow 2 x.exponent.toNat

def denominator (x : Magnitude) : Nat := Nat.pow 2 (-x.exponent).toNat

end Magnitude

/-- Field widths of an interchange format. -/
structure Layout where
  fractionBits : Nat
  exponentBits : Nat

def Layout.single : Layout := ⟨23, 8⟩

def Layout.double : Layout := ⟨52, 11⟩

namespace Binary

/-- Reads sign, exponent and fraction off a bit pattern. -/
def ofBits (layout : Layout) (bits : Nat) : Binary :=
  let fraction := bits % Nat.pow 2 layout.fractionBits
  let biased := bits / Nat.pow 2 layout.fractionBits % Nat.pow 2 layout.exponentBits
  let negative := bits / Nat.pow 2 (layout.fractionBits + layout.exponentBits) % 2 == 1
  let least : Int := 2 - Nat.pow 2 (layout.exponentBits - 1) - layout.fractionBits
  if biased = Nat.pow 2 layout.exponentBits - 1 then
    if fraction = 0 then infinite negative else nan
  else if biased = 0 then
    finite negative ⟨fraction, least, false⟩
  else
    finite negative
      ⟨Nat.pow 2 layout.fractionBits + fraction, least + (biased - 1),
        fraction == 0 && biased > 1⟩

end Binary

/-- Number types whose values have an exact decimal text. -/
class ToBinary (α : Type) where
  toBinary : α → Binary

export ToBinary (toBinary)

instance : ToBinary Float32 where
  toBinary x := Binary.ofBits .single x.toBits.toNat

instance : ToBinary Float where
  toBinary x := Binary.ofBits .double x.toBits.toNat

end Decimal
end ActorCritic
