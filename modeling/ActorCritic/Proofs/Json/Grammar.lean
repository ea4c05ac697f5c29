import Mathlib.Data.List.Forall2
import ActorCritic.Json.Token

/-!
The grammar of JSON text, as its standard states it and without regard to how text is read: what
may stand between the tokens, the literals, and values built from values. Blanks belong to the
items and members around which they stand.
-/

namespace ActorCritic
namespace Json

/-- Blanks, as many as there are. -/
def Blank (cs : List Char) : Prop := ∀ c ∈ cs, c ∈ [' ', '\t', '\n', '\r']

instance (cs : List Char) : Decidable (Blank cs) := List.decidableBAll _ cs

/-- The characters that a backslash may stand before, with what they mean there. -/
def shortEscapes : List (Char × Char) :=
  [('"', '"'), ('\\', '\\'), ('/', '/'), ('b', '\x08'), ('f', '\x0c'), ('n', '\n'), ('r', '\r'),
   ('t', '\t')]

/-- A character that stands for itself in a string. -/
def IsPlain (c : Char) : Prop := 0x20 ≤ c.toNat ∧ c ≠ '"' ∧ c ≠ '\\'

/-- What may stand between the quotes of a string. -/
inductive Literal : List Char → Prop where
  | nil : Literal []
  | plain {c : Char} {cs : List Char} (plain : IsPlain c) (rest : Literal cs) : Literal (c :: cs)
  | short {c d : Char} {cs : List Char} (short : (c, d) ∈ shortEscapes) (rest : Literal cs) :
      Literal ('\\' :: c :: cs)
  | unit {a b c d : Char} {n : Nat} {cs : List Char} (hex : Token.hexUnit? a b c d = some n)
      (rest : Literal cs) : Literal ('\\' :: 'u' :: a :: b :: c :: d :: cs)

/-- The text that a literal denotes. An escape names a unit of the text's encoding in units of 16
bits; two of them name a character that takes two units. -/
inductive Denotes : List Char → List Char → Prop where
  | nil : Denotes [] []
  | plain {c : Char} {cs text : List Char} (plain : IsPlain c) (rest : Denotes cs text) :
      Denotes (c :: cs) (c :: text)
  | short {c d : Char} {cs text : List Char} (short : (c, d) ∈ shortEscapes)
      (rest : Denotes cs text) : Denotes ('\\' :: c :: cs) (d :: text)
  | unit {a b c d : Char} {n : Nat} {cs text : List Char}
      (hex : Token.hexUnit? a b c d = some n) (whole : n < 0xd800 ∨ 0xe000 ≤ n)
      (rest : Denotes cs text) : Denotes ('\\' :: 'u' :: a :: b :: c :: d :: cs) (.ofNat n :: text)
  | pair {a b c d a' b' c' d' : Char} {n m : Nat} {cs text : List Char}
      (hex : Token.hexUnit? a b c d = some n) (hex' : Token.hexUnit? a' b' c' d' = some m)
      (lead : 0xd800 ≤ n ∧ n < 0xdc00) (trail : 0xdc00 ≤ m ∧ m < 0xe000)
      (rest : Denotes cs text) :
      Denotes ('\\' :: 'u' :: a :: b :: c :: d :: '\\' :: 'u' :: a' :: b' :: c' :: d' :: cs)
        (.ofNat (0x10000 + (n - 0xd800) * 0x400 + (m - 0xdc00)) :: text)

/-- Digits, at least one. -/
def Digits (cs : List Char) : Prop := cs ≠ [] ∧ ∀ c ∈ cs, c.isDigit = true

/-- A number: no zero stands before another digit of its whole part. -/
def Number (cs : List Char) : Prop :=
  ∃ sign whole fraction exponent, cs = sign ++ (whole ++ (fraction ++ exponent)) ∧
    (sign = [] ∨ sign = ['-']) ∧
    (Digits whole ∧ (whole.head? = some '0' → whole = ['0'])) ∧
    (fraction = [] ∨ ∃ ds, fraction = '.' :: ds ∧ Digits ds) ∧
    (exponent = [] ∨ ∃ mark sign ds, exponent = mark :: (sign ++ ds) ∧
      (mark = 'e' ∨ mark = 'E') ∧ (sign = [] ∨ sign = ['-'] ∨ sign = ['+']) ∧ Digits ds)

/-- Items with commas between them and blanks around them. -/
inductive Items : List (List Char) → List Char → Prop where
  | last {before item after : List Char} (blank : Blank before) (blank' : Blank after) :
      Items [item] (before ++ (item ++ after))
  | next {before item after cs : List Char} {items : List (List Char)} (blank : Blank before)
      (blank' : Blank after) (rest : Items items cs) :
      Items (item :: items) (before ++ (item ++ (after ++ ',' :: cs)))

/-- A member of an object as it is written: what stands between the quotes of its name, the blanks
around the colon, and the value. -/
structure Member where
  literal : List Char
  before : List Char
  after : List Char
  value : List Char

namespace Member

def text (m : Member) : List Char :=
  '"' :: (m.literal ++ '"' :: (m.before ++ ':' :: (m.after ++ m.value)))

end Member

inductive Value : List Char → Prop where
  | null : Value ['n', 'u', 'l', 'l']
  | true : Value ['t', 'r', 'u', 'e']
  | false : Value ['f', 'a', 'l', 's', 'e']
  | number {cs : List Char} (number : Number cs) : Value cs
  | string {cs : List Char} (literal : Literal cs) : Value ('"' :: (cs ++ ['"']))
  | emptyArray {cs : List Char} (blank : Blank cs) : Value ('[' :: (cs ++ [']']))
  | array {items : List (List Char)} {cs : List Char} (values : ∀ v ∈ items, Value v)
      (layout : Items items cs) : Value ('[' :: (cs ++ [']']))
  | emptyObject {cs : List Char} (blank : Blank cs) : Value ('{' :: (cs ++ ['}']))
  | object {members : List Member} {cs : List Char} (names : ∀ m ∈ members, Literal m.literal)
      (blank : ∀ m ∈ members, Blank m.before) (blank' : ∀ m ∈ members, Blank m.after)
      (values : ∀ m ∈ members, Value m.value) (layout : Items (members.map Member.text) cs) :
      Value ('{' :: (cs ++ ['}']))

/-- A whole text that is an object. Its members are given by the names that their literals denote
and by the texts of their values. -/
def ObjectText (members : List (String × List Char)) (text : List Char) : Prop :=
  ∃ (before layout after : List Char) (written : List Member), Blank before ∧ Blank after ∧
    List.Forall₂ (fun m w => Denotes w.literal m.1.toList ∧ Blank w.before ∧ Blank w.after ∧
      w.value = m.2) members written ∧
    Items (written.map Member.text) layout ∧
    text = before ++ ('{' :: (layout ++ ['}']) ++ after)

/-- A whole text that is an array of values with these texts. -/
def ArrayText (values : List (List Char)) (text : List Char) : Prop :=
  ∃ before layout after : List Char, Blank before ∧ Blank after ∧ Items values layout ∧
    text = before ++ ('[' :: (layout ++ [']']) ++ after)

end Json
end ActorCritic
