import ActorCritic.Json.Token

/-!
JSON values, read from tokens and written without blanks.
-/

namespace ActorCritic

inductive Json where
  | null
  | bool (b : Bool)
  | number (n : Json.Numeral)
  | string (s : String)
  | array (items : List Json)
  | object (members : List (String × Json))

namespace Json

mutual

def ofTokens? : (fuel : Nat) → List Token → Option (Json × List Token)
  | 0, _ => none
  | _ + 1, .null :: rest => some (null, rest)
  | _ + 1, .bool b :: rest => some (bool b, rest)
  | _ + 1, .number n :: rest => some (number n, rest)
  | _ + 1, .string s :: rest => some (string s, rest)
  | _ + 1, .openBracket :: .closeBracket :: rest => some (array [], rest)
  | fuel + 1, .openBracket :: rest => do
      let (items, rest) ← itemsOfTokens? fuel rest
      return (array items, rest)
  | _ + 1, .openBrace :: .closeBrace :: rest => some (object [], rest)
  | fuel + 1, .openBrace :: rest => do
      let (members, rest) ← membersOfTokens? fuel rest
      return (object members, rest)
  | _ + 1, _ => none

/-- Reads the items of an array that has at least one, and the bracket that ends it. -/
def itemsOfTokens? : (fuel : Nat) → List Token → Option (List Json × List Token)
  | 0, _ => none
  | fuel + 1, tokens => do
      let (item, rest) ← ofTokens? fuel tokens
      match rest with
      | .comma :: rest => do
          let (items, rest) ← itemsOfTokens? fuel rest
          return (item :: items, rest)
      | .closeBracket :: rest => return ([item], rest)
      | _ => none

/-- Reads the members of an object that has at least one, and the brace that ends it. -/
def membersOfTokens? : (fuel : Nat) → List Token → Option (List (String × Json) × List Token)
  | 0, _ => none
  | fuel + 1, .string key :: .colon :: rest => do
      let (value, rest) ← ofTokens? fuel rest
      match rest with
      | .comma :: rest => do
          let (members, rest) ← membersOfTokens? fuel rest
          return ((key, value) :: members, rest)
      | .closeBrace :: rest => return ([(key, value)], rest)
      | _ => none
  | _ + 1, _ => none

end

/-- Passes over one value, whose strings need not be text. -/
def skip? (tokens : List Token) : Option (List Token) :=
  let blanked := tokens.map fun t => if t = .unpaired then .string "" else t
  (ofTokens? (2 * tokens.length + 1) blanked).map fun (_, rest) =>
    tokens.drop (tokens.length - rest.length)

def parse? (text : String) : Option Json :=
  let tokens := Token.ofText text
  match ofTokens? (2 * tokens.length + 1) tokens with
  | some (value, []) => some value
  | _ => none

def hexText (n : Nat) : List Char := [Nat.digitChar (n / 16), Nat.digitChar (n % 16)]

/-- Quotes, backslashes and control characters are escaped, all else is written as it is. -/
def escape (c : Char) : List Char :=
  match c with
  | '"' => ['\\', '"']
  | '\\' => ['\\', '\\']
  | '\x08' => ['\\', 'b']
  | '\t' => ['\\', 't']
  | '\n' => ['\\', 'n']
  | '\x0c' => ['\\', 'f']
  | '\r' => ['\\', 'r']
  | c => if c.toNat < 0x20 then ['\\', 'u', '0', '0'] ++ hexText c.toNat else [c]

def quote (s : String) : String := String.ofList ('"' :: s.toList.flatMap escape ++ ['"'])

def Numeral.write (n : Numeral) : String :=
  let sign := if n.negative then "-" else ""
  if n.whole then sign ++ toString n.digits
  else sign ++ toString n.digits ++ "e" ++ toString n.power

mutual

/-- The text of a value without blanks. -/
def write : Json → String
  | null => "null"
  | bool b => if b then "true" else "false"
  | number n => n.write
  | string s => quote s
  | array items => "[" ++ writeItems items ++ "]"
  | object members => "\x7b" ++ writeMembers members ++ "\x7d"

def writeItems : List Json → String
  | [] => ""
  | [item] => write item
  | item :: items => write item ++ "," ++ writeItems items

def writeMembers : List (String × Json) → String
  | [] => ""
  | [(key, value)] => quote key ++ ":" ++ write value
  | (key, value) :: members => quote key ++ ":" ++ write value ++ "," ++ writeMembers members

end

end Json
end ActorCritic
