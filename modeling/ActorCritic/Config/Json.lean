import ActorCritic.Config.Field
import ActorCritic.Count
import ActorCritic.Decimal.Shortest
import ActorCritic.Json.Value
import ActorCritic.Text.Quoted

/-!
Configurations as JSON text. They are written as an object with all fields in order. They are
read from an object with the fields in any order, unknown members passed over and only the
output directory optional, or from an array with all values in order.

The reader works from left to right and reports the first fault, be it in the grammar of the
text or in the type of a value.
-/

namespace ActorCritic
namespace Config

/-- What a reader looks for. -/
inductive Expected where
  | count
  | flag
  | path
  | config
deriving DecidableEq, Repr

def Expected.name : Expected → String
  | count => "usize"
  | flag => "a boolean"
  | path => "path string"
  | config => "struct ActorCriticConfig"

/-- What it finds instead. -/
inductive Found where
  | null
  | bool (b : Bool)
  | whole (n : Int)
  | float (x : Float)
  | string (s : String)
  | sequence
  | map
deriving DecidableEq

def Found.describe : Found → String
  | null => "null"
  | bool b => s!"boolean `{b}`"
  | whole n => s!"integer `{n}`"
  | float x => s!"floating point `{Decimal.fractional (Decimal.toBinary x)}`"
  | string s => s!"string {Text.quoted s}"
  | sequence => "sequence"
  | map => "map"

inductive ReadError where
  /-- The text is no JSON value. -/
  | malformed
  | wrongType (found : Found) (expected : Expected)
  | negativeCount (n : Int)
  | duplicate (field : Field)
  | missing (field : Field)
  | tooShort (length : Nat)
deriving DecidableEq

/-- Text that is no JSON value has no message. -/
def ReadError.message : ReadError → Option String
  | malformed => none
  | wrongType found expected =>
      some s!"invalid type: {found.describe}, expected {expected.name}"
  | negativeCount n =>
      some s!"invalid value: {(Found.whole n).describe}, expected {Expected.count.name}"
  | duplicate field => some s!"duplicate field `{field.name}`"
  | missing field => some s!"missing field `{field.name}`"
  | tooShort length =>
      some s!"invalid length {length}, expected {Expected.config.name} with 15 elements"

/-- A number as the reader takes it: whole within 64 bits, signed if negative, or a float. -/
inductive Taken where
  | count (n : Nat)
  | negative (n : Int)
  | float (x : Float)

/-- No number where a float leaves its range. -/
def takeNumber (n : Json.Numeral) : Option Taken :=
  match n.toInt? with
  | some (.ofNat k) => if k < Count.limit then some (.count k) else n.toFiniteFloat?.map .float
  | some (.negSucc k) =>
      if k < Nat.pow 2 63 then some (.negative (.negSucc k)) else n.toFiniteFloat?.map .float
  | none => n.toFiniteFloat?.map .float

/-- The fault of a token that does not start what is looked for. -/
def mismatch (expected : Expected) : Json.Token → ReadError
  | .null => .wrongType .null expected
  | .bool b => .wrongType (.bool b) expected
  | .string s => .wrongType (.string s) expected
  | .openBracket => .wrongType .sequence expected
  | .openBrace => .wrongType .map expected
  | .number n =>
      match takeNumber n with
      | some (.count k) => .wrongType (.whole k) expected
      | some (.negative k) => .wrongType (.whole k) expected
      | some (.float x) => .wrongType (.float x) expected
      | none => .malformed
  | _ => .malformed

def readCount : List Json.Token → Except ReadError (Nat × List Json.Token)
  | .number n :: rest =>
      match takeNumber n with
      | some (.count k) => .ok (k, rest)
      | some (.negative k) => .error (.negativeCount k)
      | _ => .error (mismatch .count (.number n))
  | token :: _ => .error (mismatch .count token)
  | [] => .error .malformed

def readFlag : List Json.Token → Except ReadError (Bool × List Json.Token)
  | .bool b :: rest => .ok (b, rest)
  | token :: _ => .error (mismatch .flag token)
  | [] => .error .malformed

def readPath : List Json.Token → Except ReadError (Option String × List Json.Token)
  | .null :: rest => .ok (none, rest)
  | .string s :: rest => .ok (some s, rest)
  | token :: _ => .error (mismatch .path token)
  | [] => .error .malformed

def readField (c : Config) (tokens : List Json.Token) :
    Field → Except ReadError (Config × List Json.Token)
  | .count f => do
      let (n, rest) ← readCount tokens
      return (f.set c n, rest)
  | .flag f => do
      let (b, rest) ← readFlag tokens
      return (f.set c b, rest)
  | .outputDir => do
      let (dir, rest) ← readPath tokens
      return ({ c with outputDir := dir }, rest)

def readMember (c : Config) (field : Option Field) :
    List Json.Token → Except ReadError (Config × List Json.Token)
  | .colon :: rest =>
      match field with
      | some f => readField c rest f
      | none =>
          match Json.skip? rest with
          | some rest => .ok (c, rest)
          | none => .error .malformed
  | _ => .error .malformed

/-- Reads the members of an object from a name on. A member takes at least one token, so as many
rounds as tokens are enough. -/
def readMembers : (fuel : Nat) → Config → (seen : List Field) → List Json.Token →
    Except ReadError (Config × List Field × List Json.Token)
  | fuel + 1, c, seen, .string name :: tokens => do
      let field := Field.ofName? name
      match field with
      | some f => if f ∈ seen then throw (.duplicate f)
      | none => pure ()
      let (c, rest) ← readMember c field tokens
      let seen := field.toList ++ seen
      match rest with
      | .comma :: rest => readMembers fuel c seen rest
      | .closeBrace :: rest => return (c, seen, rest)
      | _ => throw .malformed
  | _, _, _, _ => .error .malformed

/-- The first field that is not there although it has to be. -/
def firstMissing (seen : List Field) : Option Field :=
  Field.all.find? fun f => f ≠ .outputDir ∧ f ∉ seen

/-- Reads the values of an array, `read` of them being behind. -/
def readItems : (fields : List Field) → (read : Nat) → Config → List Json.Token →
    Except ReadError (Config × List Json.Token)
  | [], _, c, .closeBracket :: rest => .ok (c, rest)
  | [], _, _, _ => .error .malformed
  | field :: fields, read, c, tokens => do
      let tokens ←
        match read, tokens with
        | 0, .closeBracket :: _ => throw (.tooShort 0)
        | 0, tokens => pure tokens
        | n + 1, .closeBracket :: _ => throw (.tooShort (n + 1))
        | _ + 1, .comma :: .closeBracket :: _ => throw .malformed
        | _ + 1, .comma :: rest => pure rest
        | _ + 1, _ => throw .malformed
      let (c, rest) ← readField c tokens field
      readItems fields (read + 1) c rest

def readTokens : List Json.Token → Except ReadError (Config × List Json.Token)
  | .openBrace :: .closeBrace :: rest =>
      match firstMissing [] with
      | some f => .error (.missing f)
      | none => .ok ({}, rest)
  | .openBrace :: rest => do
      let (c, seen, rest) ← readMembers rest.length {} [] rest
      match firstMissing seen with
      | some f => throw (.missing f)
      | none => return (c, rest)
  | .openBracket :: rest => readItems Field.all 0 {} rest
  | token :: _ => .error (mismatch .config token)
  | [] => .error .malformed

def ofJson (text : String) : Except ReadError Config := do
  let (c, rest) ← readTokens (Json.Token.ofText text)
  if rest.isEmpty then return c else throw .malformed

def fieldJson (c : Config) : Field → Json
  | .count f => .number (.ofInt (f.get c))
  | .flag f => .bool (f.get c)
  | .outputDir => c.outputDir.elim .null .string

def toJson (c : Config) : String :=
  (Json.object (Field.all.map fun f => (f.name, fieldJson c f))).write

end Config
end ActorCritic
