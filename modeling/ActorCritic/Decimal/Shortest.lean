import ActorCritic.Decimal.Rounded

/-!
The shortest decimal text that reads back as the same binary number. Candidates lie on the
grids of one, two and more digits; a number takes the first grid on which one of its two
neighbours falls into the interval of reals that round to it.

Texts differ in which of two neighbours they take when both are equally near.
-/

namespace ActorCritic
namespace Decimal

/-- The reals that round to a number, in units of a common denominator. The ends belong to the
interval when the mantissa is even. -/
structure Interval where
  low : Nat
  value : Nat
  high : Nat
  unit : Nat
  closed : Bool

/-- Which of two equally near neighbours a text takes. -/
inductive Tie where
  | larger
  | even
deriving DecidableEq, Repr

namespace Interval

def ofMagnitude (x : Magnitude) : Interval :=
  let step := Nat.pow 2 x.exponent.toNat
  let value := 4 * x.numerator
  { low := value - (if x.lowerGapHalved then step else 2 * step)
    value := value
    high := value + 2 * step
    unit := 4 * x.denominator
    closed := x.mantissa % 2 == 0 }

/-- Whether `n / d` lies in the interval. -/
def holds (i : Interval) (n d : Nat) : Bool :=
  let point := n * i.unit
  if i.closed then i.low * d ≤ point && point ≤ i.high * d
  else i.low * d < point && point < i.high * d

/-- The neighbour of the value on the grid of multiples of `10 ^ e` that lies in the interval,
the nearer one where both do. -/
def onGrid (i : Interval) (tie : Tie) (e : Int) : Option Nat :=
  let (n, d) := scale i.value i.unit (-e)
  let below := n / d
  let inside (m : Nat) : Bool :=
    let (a, b) := scale m 1 e
    i.holds a b
  let up : Bool :=
    match tie with
    | .larger => d ≤ 2 * (n % d)
    | .even => d < 2 * (n % d) || d == 2 * (n % d) && below % 2 == 1
  match inside below, inside (below + 1) with
  | true, true => some (if up then below + 1 else below)
  | true, false => some below
  | false, true => some (below + 1)
  | false, false => none

end Interval

/-- Looks for a hit on the grids of `count`, `count + 1`, … digits, on `fuel` grids at most. -/
def shortestFrom (i : Interval) (tie : Tie) (leading : Int) : (fuel count : Nat) → Nat × Int
  | 0, _ => (0, 0)
  | fuel + 1, count =>
      let e := leading - (count - 1)
      match i.onGrid tie e with
      | some m => (m, e)
      | none => shortestFrom i tie leading fuel (count + 1)

def trimmed (digits : List Char) : List Char :=
  (digits.reverse.dropWhile (· == '0')).reverse

/-- The shortest digits of a positive number. Seventeen digits always suffice for a number of
at most 53 binary digits. -/
def Magnitude.shortest (tie : Tie) (x : Magnitude) : Significand :=
  let k := leadingExponent x.numerator x.denominator
  let (m, e) := shortestFrom (Interval.ofMagnitude x) tie k 17 1
  let digits := Nat.toDigits 10 m
  ⟨trimmed digits, e + (digits.length - 1)⟩

/-- Positional text of the digits, without a point when the number is whole. -/
def Significand.positional (s : Significand) : String :=
  let n := s.digits.length
  if s.exponent < 0 then
    "0." ++ String.ofList (List.replicate ((-s.exponent).toNat - 1) '0' ++ s.digits)
  else
    let whole := s.exponent.toNat + 1
    if n ≤ whole then String.ofList (s.digits ++ List.replicate (whole - n) '0')
    else String.ofList (s.digits.take whole) ++ "." ++ String.ofList (s.digits.drop whole)

/-- Positional text with the shortest digits that read back, for numbers of any size. Of two
equally near digit strings it takes the larger. -/
def shortest : Binary → String
  | .nan => "NaN"
  | .infinite negative => signText negative ++ "inf"
  | .finite negative x =>
      signText negative ++ (if x.isZero then "0" else (x.shortest .larger).positional)

/-- The shortest text that shows a fraction: whole numbers below `10 ^ 16` get a final `.0`,
and larger numbers and those below `10 ^ (-5)` are written with an exponent. Of two equally near
digit strings it takes the even one. -/
def fractional : Binary → String
  | .nan => "NaN"
  | .infinite negative => signText negative ++ "inf"
  | .finite negative x =>
      if x.isZero then signText negative ++ "0.0"
      else
        let s := x.shortest .even
        if s.exponent < -5 then
          signText negative ++ withPoint s.digits ++ "e" ++ toString s.exponent
        else if 16 ≤ s.exponent then
          signText negative ++ withPoint s.digits ++ "e+" ++ toString s.exponent
        else if s.digits.length ≤ s.exponent.toNat + 1 && 0 ≤ s.exponent then
          signText negative ++ s.positional ++ ".0"
        else signText negative ++ s.positional

def text {α : Type} [ToBinary α] (x : α) : String := shortest (toBinary x)

end Decimal
end ActorCritic
