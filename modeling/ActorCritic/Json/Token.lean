import ActorCritic.Json.Numeral

/-!
The tokens of JSON text. Text that is no token ends the list with `fault`, so a reader that
works from left to right meets the faults in the order of the text.
-/

namespace ActorCritic
namespace Json

inductive Token where
  | openBrace
  | closeBrace
  | openBracket
  | closeBracket
  | colon
  | comma
  | null
  | bool (b : Bool)
  | number (n : Numeral)
  | string (s : String)
  /-- A string with half of a surrogate pair, which is no text. -/
  | unpaired
  | fault
deriving DecidableEq, Repr

namespace Token

/-- A character of a string literal, or the unit that a `\u` escape names. -/
inductive Piece where
  | char (c : Char)
  | unit (n : Nat)
deriving DecidableEq, Repr

def hexDigit? (c : Char) : Option Nat :=
  if '0' ≤ c ∧ c ≤ '9' then some (c.toNat - '0'.toNat)
  else if 'a' ≤ c ∧ c ≤ 'f' then some (c.toNat - 'a'.toNat + 10)
  else if 'A' ≤ c ∧ c ≤ 'F' then some (c.toNat - 'A'.toNat + 10)
  else none

def hexUnit? (a b c d : Char) : Option Nat := do
  let a ← hexDigit? a
  let b ← hexDigit? b
  let c ← hexDigit? c
  let d ← hexDigit? d
  return ((a * 16 + b) * 16 + c) * 16 + d

def escaped? : Char → Option Char
  | '"' => some '"'
  | '\\' => some '\\'
  | '/' => some '/'
  | 'b' => some '\x08'
  | 'f' => some '\x0c'
  | 'n' => some '\n'
  | 'r' => some '\r'
  | 't' => some '\t'
  | _ => none

def scanString : List Char → Option (List Piece × List Char)
  | [] => none
  | '"' :: rest => some ([], rest)
  | '\\' :: 'u' :: a :: b :: c :: d :: rest => do
      let n ← hexUnit? a b c d
      let (ps, rest) ← scanString rest
      return (.unit n :: ps, rest)
  | '\\' :: c :: rest => do
      let c ← escaped? c
      let (ps, rest) ← scanString rest
      return (.char c :: ps, rest)
  | c :: rest =>
      if c.toNat < 0x20 then none
      else do
        let (ps, rest) ← scanString rest
        return (.char c :: ps, rest)

def isLead (n : Nat) : Bool := 0xd800 ≤ n && n < 0xdc00

def isTrail (n : Nat) : Bool := 0xdc00 ≤ n && n < 0xe000

/-- Joins surrogate pairs; a half on its own is no text. -/
def assemble : List Piece → Option (List Char)
  | [] => some []
  | .char c :: ps => (assemble ps).map (c :: ·)
  | .unit n :: ps =>
      if isTrail n then none
      else if isLead n then
        match ps with
        | .unit m :: ps =>
            if isTrail m then
              (assemble ps).map (Char.ofNat (0x10000 + (n - 0xd800) * 0x400 + (m - 0xdc00)) :: ·)
            else none
        | _ => none
      else (assemble ps).map (Char.ofNat n :: ·)

def ofPieces (ps : List Piece) : Token :=
  match assemble ps with
  | some cs => string (String.ofList cs)
  | none => unpaired

def digitsValue (cs : List Char) : Nat := cs.foldl (fun n c => n * 10 + (c.toNat - '0'.toNat)) 0

def splitDigits (cs : List Char) : List Char × List Char :=
  (cs.takeWhile Char.isDigit, cs.dropWhile Char.isDigit)

/-- The digits after a point, if there is a point. -/
def scanFraction : List Char → Option (Option (List Char) × List Char)
  | '.' :: rest =>
      let (ds, rest) := splitDigits rest
      if ds.isEmpty then none else some (some ds, rest)
  | cs => some (none, cs)

def scanSign : List Char → Bool × List Char
  | '-' :: rest => (true, rest)
  | '+' :: rest => (false, rest)
  | cs => (false, cs)

/-- The power of ten after an exponent mark, if there is a mark. -/
def scanExponent : List Char → Option (Option Int × List Char)
  | c :: rest =>
      if c = 'e' ∨ c = 'E' then
        let (negative, rest) := scanSign rest
        let (ds, rest) := splitDigits rest
        if ds.isEmpty then none
        else
          let n : Int := digitsValue ds
          some (some (if negative then -n else n), rest)
      else some (none, c :: rest)
  | [] => some (none, [])

/-- Reads an unsigned number: no leading zeros, a digit on both sides of a point. -/
def scanUnsigned (negative : Bool) (cs : List Char) : Option (Numeral × List Char) :=
  let (ds, rest) := splitDigits cs
  if ds.isEmpty || (ds.head? == some '0' && ds.length != 1) then none
  else do
    let (fraction, rest) ← scanFraction rest
    let (exponent, rest) ← scanExponent rest
    let tail := fraction.getD []
    return ({ negative := negative
              digits := digitsValue (ds ++ tail)
              fractionDigits := tail.length
              exponent := exponent.getD 0
              whole := fraction.isNone && exponent.isNone }, rest)

def isBlank (c : Char) : Bool := c == ' ' || c == '\t' || c == '\n' || c == '\r'

def scan : List Char → Option (Token × List Char)
  | [] => none
  | '{' :: rest => some (openBrace, rest)
  | '}' :: rest => some (closeBrace, rest)
  | '[' :: rest => some (openBracket, rest)
  | ']' :: rest => some (closeBracket, rest)
  | ':' :: rest => some (colon, rest)
  | ',' :: rest => some (comma, rest)
  | '"' :: rest => (scanString rest).map fun (ps, rest) => (ofPieces ps, rest)
  | 'n' :: 'u' :: 'l' :: 'l' :: rest => some (null, rest)
  | 't' :: 'r' :: 'u' :: 'e' :: rest => some (bool true, rest)
  | 'f' :: 'a' :: 'l' :: 's' :: 'e' :: rest => some (bool false, rest)
  | '-' :: rest => (scanUnsigned true rest).map fun (n, rest) => (number n, rest)
  | c :: rest => (scanUnsigned false (c :: rest)).map fun (n, rest) => (number n, rest)

/-- Every token takes at least one character, so as many rounds as characters are enough. -/
def scanAll : (fuel : Nat) → List Char → List Token
  | _, [] => []
  | 0, _ => [fault]
  | fuel + 1, c :: cs =>
      if isBlank c then scanAll fuel cs
      else
        match scan (c :: cs) with
        | some (t, rest) => t :: scanAll fuel rest
        | none => [fault]

def ofText (text : String) : List Token := scanAll text.length text.toList

end Token
end Json
end ActorCritic
