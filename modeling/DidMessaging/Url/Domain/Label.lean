import DidMessaging.Text.Composed
import DidMessaging.Text.Direction
import DidMessaging.Text.Joining
import DidMessaging.Url.Domain.Spelling
import DidMessaging.Url.Punycode

namespace DidMessaging.Url.Domain

structure Label where
  shown : List Char
  ascii : List Char
  deriving DecidableEq, Repr

def isAscii (s : List Char) : Bool := s.all fun c => c.toNat < 128

def isReserved (c : Char) : Bool :=
  c.toNat ≤ 32 || c.toNat = 127 ||
    ['#', '/', ':', '<', '>', '?', '@', '[', '\\', ']', '^', '|', '%'].contains c

def compose? (s : List Char) : Option (List Char) := do
  let spelt ← spell? s
  let composed := Text.compose spelt
  if composed.any isReserved then none else some composed

def joins (neighbour : Text.Joining) (s : List Char) : Bool :=
  match (s.map Text.joining).find? (· ≠ .passed) with
  | some found => found = .both || found = neighbour
  | none => false

/-- Whether the joiners and non-joiners of a label change how it looks; `before` is reversed. -/
def joinersShow (before : List Char) : List Char → Bool
  | [] => true
  | c :: s =>
    let virama := (before.head?.map Text.isVirama).getD false
    let shows :=
      if c = '\u200D' then virama
      else if c = '\u200C' then virama || (joins .next before && joins .previous s)
      else true
    shows && joinersShow (c :: before) s

def maxShown : Nat := 1000

def isSound (shown : List Char) : Bool :=
  !(shown.head?.map Text.isMark).getD false && joinersShow [] shown &&
    (isAscii shown || shown.length ≤ maxShown)

def maxDigits : Nat := 2000

def asciiMark : List Char := ['x', 'n', '-', '-']

def readAscii? (label : List Char) : Option Label := do
  let digits := label.drop asciiMark.length
  if label.getLast? = some '-' ∨ maxDigits < digits.length then none
  else
    let shown ← Punycode.decode digits
    if compose? shown = some shown ∧ !shown.contains '.' ∧ isSound shown then
      some ⟨shown, label⟩
    else none

def Label.ofSpelling? (label : List Char) : Option Label :=
  if asciiMark.isPrefixOf label then
    if isAscii label then readAscii? label else none
  else if isAscii label then some ⟨label, label⟩
  else if isSound label then some ⟨label, asciiMark ++ Punycode.encode label⟩
  else none

end DidMessaging.Url.Domain
