import ActorCritic.Decimal.Binary

/-!
Decimal text of a chosen precision: scientific with a number of significant digits, or
positional with a number of places. The exact binary value is rounded, and a tie goes to the
even digit.
-/

namespace ActorCritic
namespace Decimal

/-- The whole number nearest to `n / d`; of two equally near, the even one. -/
def roundDiv (n d : Nat) : Nat :=
  let q := n / d
  let r := n % d
  if 2 * r < d then q
  else if d < 2 * r then q + 1
  else if q % 2 = 0 then q else q + 1

def digitCount (n : Nat) : Nat := (Nat.toDigits 10 n).length

/-- Numerator and denominator of `n / d * 10 ^ e`. -/
def scale (n d : Nat) (e : Int) : Nat × Nat := (n * Nat.pow 10 e.toNat, d * Nat.pow 10 (-e).toNat)

/-- The exponent `k` with `10 ^ k ≤ n / d < 10 ^ (k + 1)`, for positive `n` and `d`. -/
def leadingExponent (n d : Nat) : Int :=
  let k : Int := digitCount n - digitCount d
  let (n', d') := scale n d (-k)
  if d' ≤ n' then k else k - 1

/-- Digits with a point after the first, times a power of ten. -/
structure Significand where
  digits : List Char
  exponent : Int
deriving DecidableEq, Repr

/-- The `count` leading digits of a number. Zero has exponent zero. -/
def Magnitude.significand (count : Nat) (x : Magnitude) : Significand :=
  if x.isZero then ⟨List.replicate count '0', 0⟩
  else
    let k := leadingExponent x.numerator x.denominator
    let (n, d) := scale x.numerator x.denominator (count - 1 - k)
    let m := roundDiv n d
    if m = Nat.pow 10 count then ⟨Nat.toDigits 10 (Nat.pow 10 (count - 1)), k + 1⟩
    else ⟨Nat.toDigits 10 m, k⟩

/-- How a format spells what is not a plain positive number. -/
structure Spelling where
  nan : String
  signedZero : Bool

def Spelling.plain : Spelling := ⟨"NaN", true⟩

def signText (negative : Bool) : String := if negative then "-" else ""

def withPoint : List Char → String
  | [] => ""
  | [c] => String.ofList [c]
  | c :: cs => String.ofList (c :: '.' :: cs)

/-- Scientific text with `count` significant digits. -/
def scientific (spelling : Spelling) (count : Nat) : Binary → String
  | .nan => spelling.nan
  | .infinite negative => signText negative ++ "inf"
  | .finite negative x =>
      let s := x.significand count
      signText (negative && (spelling.signedZero || !x.isZero)) ++ withPoint s.digits ++ "e" ++
        toString s.exponent

/-- Writes `m / 10 ^ places` with all its places. -/
def placed (places m : Nat) : String :=
  let fraction := Nat.toDigits 10 (m % Nat.pow 10 places)
  let padding := List.replicate (places - fraction.length) '0'
  if places = 0 then toString m
  else toString (m / Nat.pow 10 places) ++ "." ++ String.ofList (padding ++ fraction)

def fixed (spelling : Spelling) (places : Nat) : Binary → String
  | .nan => spelling.nan
  | .infinite negative => signText negative ++ "inf"
  | .finite negative x =>
      signText (negative && (spelling.signedZero || !x.isZero)) ++
        placed places (roundDiv (x.numerator * Nat.pow 10 places) x.denominator)

end Decimal
end ActorCritic
