import DidMessaging.Json.Numeral
import DidMessaging.Json.Text

namespace DidMessaging.Json

abbrev Reader (α : Type) := List Char → Except Fault (α × List Char)

def isBlank (c : Char) : Bool := c = ' ' ∨ c = '\n' ∨ c = '\t' ∨ c = '\r'

def skipBlank (s : List Char) : List Char := s.dropWhile isBlank

def readLiteral : (letters : List Char) → List Char → Except Fault (List Char)
  | [], s => .ok s
  | _ :: _, [] => .error .endInValue
  | letter :: letters, c :: s =>
    if letter = c then readLiteral letters s else .error .expectedLiteral

def nextElement (first : Bool) (s : List Char) : Except Fault (Option (List Char)) :=
  match skipBlank s with
  | [] => .error .endInList
  | c :: s =>
    if c = ']' then .ok none
    else if first then .ok (some (c :: s))
    else if c = ',' then
      match skipBlank s with
      | [] => .error .endInValue
      | c :: s => if c = ']' then .error .trailingComma else .ok (some (c :: s))
    else .error .expectedCommaOrBracket

def nextName (first : Bool) (s : List Char) : Except Fault (Option (List Char)) :=
  match skipBlank s with
  | [] => .error .endInObject
  | c :: s =>
    if c = '}' then .ok none
    else if first then if c = '"' then .ok (some s) else .error .nameNotText
    else if c = ',' then
      match skipBlank s with
      | [] => .error .endInValue
      | c :: s =>
        if c = '"' then .ok (some s)
        else if c = '}' then .error .trailingComma
        else .error .nameNotText
    else .error .expectedCommaOrBrace

def readColon (s : List Char) : Except Fault (List Char) :=
  match skipBlank s with
  | [] => .error .endInObject
  | c :: s => if c = ':' then .ok s else .error .expectedColon

def closeList (s : List Char) : Except Fault (List Char) :=
  match skipBlank s with
  | [] => .error .endInList
  | c :: s =>
    if c = ']' then .ok s
    else if c = ',' then
      match skipBlank s with
      | ']' :: _ => .error .trailingComma
      | _ => .error .trailingText
    else .error .trailingText

def closeObject (s : List Char) : Except Fault (List Char) :=
  match skipBlank s with
  | [] => .error .endInObject
  | c :: s =>
    if c = '}' then .ok s
    else if c = ',' then .error .trailingComma
    else .error .trailingText

/-- The elements of a list after its opening bracket; no list has more of them than characters. -/
def readElements (element : Reader α) : (bound : Nat) → (first : Bool) → Reader (List α)
  | bound, first, s => do
    match ← nextElement first s with
    | none =>
      let rest ← closeList s
      return ([], rest)
    | some s =>
      match bound with
      | 0 => .error .endInList
      | bound + 1 =>
        let (a, s) ← element s
        let (as, rest) ← readElements element bound false s
        return (a :: as, rest)

/-- The members of an object after its opening brace, folded into `state` by `member`, which gets
each name and the text from the colon on. -/
def readMembers (member : σ → String → Reader σ) :
    (bound : Nat) → (first : Bool) → σ → Reader σ
  | bound, first, state, s => do
    match ← nextName first s with
    | none =>
      let rest ← closeObject s
      return (state, rest)
    | some s =>
      match bound with
      | 0 => .error .endInObject
      | bound + 1 =>
        let (name, s) ← readText s
        let (state, s) ← member state (String.ofList name) s
        readMembers member bound false state s

def readList (element : Reader α) : Reader (List α) := fun s =>
  readElements element s.length true s

def readObject (member : σ → String → Reader σ) (state : σ) : Reader σ := fun s =>
  readMembers member s.length true state s

def descend (levels : Nat) (inner : Nat → Reader α) : Reader α := fun s =>
  match levels with
  | 0 => .error .tooDeep
  | levels + 1 => inner levels s

def describe (s : List Char) : Except Fault Found :=
  match s with
  | [] => .error .endInValue
  | c :: s =>
    if c = 'n' then (readLiteral ['u', 'l', 'l'] s).map fun _ => .null
    else if c = 't' then (readLiteral ['r', 'u', 'e'] s).map fun _ => .flag true
    else if c = 'f' then (readLiteral ['a', 'l', 's', 'e'] s).map fun _ => .flag false
    else if c = '-' then (readNumber true s).map fun (n, _) => .number n
    else if c.isDigit then (readNumber false (c :: s)).map fun (n, _) => .number n
    else if c = '"' then (readText s).map fun (content, _) => .text (String.ofList content)
    else if c = '[' then .ok .list
    else if c = '{' then .ok .object
    else .error .expectedValue

def mismatch (wanted : String) (s : List Char) : Fault :=
  match describe s with
  | .ok found => .wrongKind found wanted
  | .error fault => fault

end DidMessaging.Json
