/-!
Number literals of JSON text, kept as written: sign, digits, and the power of ten that the
point and the exponent make.
-/

namespace ActorCritic
namespace Json

structure Numeral where
  negative : Bool
  digits : Nat
  fractionDigits : Nat
  exponent : Int
  /-- Written with neither a point nor an exponent. -/
  whole : Bool
deriving DecidableEq, Repr

namespace Numeral

def ofInt (n : Int) : Numeral := ⟨n < 0, n.natAbs, 0, 0, true⟩

def power (n : Numeral) : Int := n.exponent - n.fractionDigits

/-- A whole number, sign included; `-0` is none. -/
def toInt? (n : Numeral) : Option Int :=
  if !n.whole then none
  else if !n.negative then some n.digits
  else if n.digits = 0 then none
  else some (-n.digits)

/-- The 64-bit float nearest to the literal. Powers beyond the range of the format are
settled by the number of digits. -/
def toFloat (n : Numeral) : Float :=
  let size : Int := (Nat.toDigits 10 n.digits).length + n.power
  let magnitude : Float :=
    if n.digits = 0 || size < -400 then 0
    else if 400 < size then 1 / 0
    else if 0 ≤ n.power then Float.ofScientific n.digits false n.power.toNat
    else Float.ofScientific n.digits true (-n.power).toNat
  if n.negative then -magnitude else magnitude

/-- The nearest float, if the literal is not beyond the range of the format. -/
def toFiniteFloat? (n : Numeral) : Option Float :=
  if n.toFloat.isFinite then some n.toFloat else none

end Numeral
end Json
end ActorCritic
