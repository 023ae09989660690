import DidMessaging.Error
import DidMessaging.Text.Hex

namespace DidMessaging

structure Did where
  method : String
  id : String
  deriving DecidableEq, Repr

namespace Did

def isMethodChar (c : Char) : Bool := c.isLower || c.isDigit

def isSegmentChar (c : Char) : Bool := c.isAlphanum || c = '.' || c = '_' || c = '-'

/-- Segments divided by colons, none of them empty; `started` says that the present one has a
character already. -/
def isSegments : (started : Bool) → List Char → Bool
  | started, [] => started
  | _, '%' :: a :: b :: s => Text.Hex.isDigit a && Text.Hex.isDigit b && isSegments true s
  | started, c :: s =>
    if isSegmentChar c then isSegments true s
    else if c = ':' then started && isSegments false s
    else if c = '=' then started && (s = [] || s = ['='])
    else false

def split? (s : List Char) : Option (List Char × List Char) :=
  match s with
  | 'd' :: 'i' :: 'd' :: ':' :: s =>
    match s.takeWhile isMethodChar, s.dropWhile isMethodChar with
    | [], _ => none
    | method, ':' :: id => if isSegments false id then some (method, id) else none
    | _, _ => none
  | _ => none

def parse (s : String) : Except Error Did :=
  match split? s.toList with
  | some (method, id) => .ok ⟨String.ofList method, String.ofList id⟩
  | none => .error (.invalidDid s)

def text (did : Did) : String := "did:" ++ did.method ++ ":" ++ did.id

end Did

def isDid (s : String) : Bool := (Did.split? s.toList).isSome

end DidMessaging
