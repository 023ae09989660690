import DidMessaging.Decimal.Shortest
import DidMessaging.Text.Hex

namespace DidMessaging

inductive Number where
  | natural (value : Nat)
  | negative (magnitude : Nat)
  | real (isNegative : Bool) (magnitude : Decimal.Double)
  deriving DecidableEq, Repr

def Number.chars : Number → List Char
  | .natural n => Nat.toDigits 10 n
  | .negative n => '-' :: Nat.toDigits 10 n
  | .real true d => '-' :: d.chars
  | .real false d => d.chars

/-- A JSON value. An object keeps its members as they come, repeated names included. -/
inductive Json where
  | null
  | flag (value : Bool)
  | number (value : Number)
  | text (value : String)
  | list (elements : List Json)
  | object (members : List (String × Json))

namespace Json

def escape (c : Char) : List Char :=
  if c = '"' then ['\\', '"']
  else if c = '\\' then ['\\', '\\']
  else if c = '\x08' then ['\\', 'b']
  else if c = '\x0c' then ['\\', 'f']
  else if c = '\n' then ['\\', 'n']
  else if c = '\r' then ['\\', 'r']
  else if c = '\t' then ['\\', 't']
  else if c.toNat < 32 then
    ['\\', 'u', '0', '0', Text.Hex.digit (c.toNat / 16), Text.Hex.digit (c.toNat % 16)]
  else [c]

def textChars (s : String) : List Char :=
  '"' :: s.toList.flatMap escape ++ ['"']

def flagChars (value : Bool) : List Char :=
  if value then ['t', 'r', 'u', 'e'] else ['f', 'a', 'l', 's', 'e']

mutual

def chars : Json → List Char
  | .null => ['n', 'u', 'l', 'l']
  | .flag value => flagChars value
  | .number value => value.chars
  | .text value => textChars value
  | .list elements => '[' :: elementChars elements ++ [']']
  | .object members => '{' :: memberChars members ++ ['}']

def elementChars : List Json → List Char
  | [] => []
  | [element] => chars element
  | element :: elements => chars element ++ ',' :: elementChars elements

def memberChars : List (String × Json) → List Char
  | [] => []
  | [(name, value)] => textChars name ++ ':' :: chars value
  | (name, value) :: members => textChars name ++ ':' :: chars value ++ ',' :: memberChars members

end

def render (value : Json) : String := String.ofList value.chars

def sortMembers (members : List (String × Json)) : List (String × Json) :=
  members.mergeSort fun a b => decide (a.1 ≤ b.1)

mutual

def sorted : Json → Json
  | .list elements => .list (sortedElements elements)
  | .object members => .object (sortMembers (sortedMembers members))
  | value => value

def sortedElements : List Json → List Json
  | [] => []
  | element :: elements => sorted element :: sortedElements elements

def sortedMembers : List (String × Json) → List (String × Json)
  | [] => []
  | (name, value) :: members => (name, sorted value) :: sortedMembers members

end

def canonical (value : Json) : String := value.sorted.render

end Json

end DidMessaging
