import DidMessaging.Text.Utf8
import DidMessaging.Url.Domain
import DidMessaging.Url.Percent

namespace DidMessaging.Url

inductive Host where
  | domain (name : List Char)
  | ipv4 (address : Nat)
  | ipv6 (pieces : List Nat)
  deriving DecidableEq, Repr

/-- A part of a dotted address: decimal, octal after `0`, hexadecimal after `0x`. -/
def addressPart : List Char → Option Nat
  | [] => none
  | '0' :: 'x' :: s => Text.Hex.number? 16 s
  | '0' :: 'X' :: s => Text.Hex.number? 16 s
  | '0' :: c :: s => Text.Hex.number? 8 (c :: s)
  | s => Text.Hex.number? 10 s

def looksNumeric (part : List Char) : Bool :=
  (!part.isEmpty && part.all Char.isDigit) ||
    ((part.take 2 = ['0', 'x'] || part.take 2 = ['0', 'X']) &&
      (Text.Hex.number? 16 (part.drop 2)).isSome)

def domainParts (name : List Char) : List (List Char) :=
  let parts := Text.splitAt (· = '.') name
  if parts.getLast? = some [] ∧ 1 < parts.length then parts.dropLast else parts

def ipv4Of (parts : List (List Char)) : Option Nat := do
  let numbers ← parts.mapM addressPart
  let last ← numbers.getLast?
  let leading := numbers.dropLast
  -- The last part fills up what the others leave.
  let room := Nat.pow 256 (5 - numbers.length)
  if 4 < numbers.length ∨ leading.any (255 < ·) ∨ room ≤ last then none
  else some (leading.foldl (fun n part => n * 256 + part) 0 * room + last)

def domainOf (s : List Char) : Option Host := do
  let text ← (Text.ofUtf8 (decode s)).toOption
  let name ← Domain.ascii? text.toList
  if name.isEmpty then none
  else
    let parts := domainParts name
    if (parts.getLast?.map looksNumeric).getD false then (ipv4Of parts).map .ipv4
    else some (.domain name)

def ipv6Piece (s : List Char) : Option Nat :=
  if s.isEmpty ∨ 4 < s.length then none else Text.Hex.number? 16 s

def dottedPieces (s : List Char) : Option (List Nat) := do
  let numbers ← (Text.splitAt (· = '.') s).mapM fun part =>
    if part.isEmpty ∨ (part.head? = some '0' ∧ part ≠ ['0']) then none else Text.Hex.number? 10 part
  match numbers with
  | [a, b, c, d] =>
    if [a, b, c, d].all (· ≤ 255) then some [a * 256 + b, c * 256 + d] else none
  | _ => none

def ipv6Pieces (final : Bool) (s : List Char) : Option (List Nat) :=
  if s.isEmpty then some []
  else do
    let parts := Text.splitAt (· = ':') s
    let leading ← parts.dropLast.mapM ipv6Piece
    let last ← parts.getLast?
    if final ∧ last.contains '.' then return leading ++ (← dottedPieces last)
    else return leading ++ [← ipv6Piece last]

def splitGap : List Char → Option (List Char × List Char)
  | ':' :: ':' :: s => some ([], s)
  | c :: s => (splitGap s).map fun (before, after) => (c :: before, after)
  | [] => none

def ipv6Of (s : List Char) : Option Host :=
  match splitGap s with
  | none => do
    let pieces ← if s.isEmpty then none else ipv6Pieces true s
    if pieces.length = 8 then some (.ipv6 pieces) else none
  | some (before, after) => do
    let left ← ipv6Pieces false before
    let right ← ipv6Pieces true after
    if left.length + right.length < 8 then
      some (.ipv6 (left ++ List.replicate (8 - left.length - right.length) 0 ++ right))
    else none

def Host.parse (s : List Char) : Option Host :=
  match s with
  | [] => none
  | '[' :: inner =>
    if inner.getLast? = some ']' then ipv6Of inner.dropLast else none
  | _ => domainOf s

def zeros (pieces : List Nat) : Nat := (pieces.takeWhile (· = 0)).length

def pieceText (pieces : List Nat) : List Char :=
  List.intercalate [':'] (pieces.map (Nat.toDigits 16))

/-- The first of the longest runs of two and more zeros is left out. -/
def ipv6Text (pieces : List Nat) : List Char :=
  let runs := (List.range pieces.length).map fun i => zeros (pieces.drop i)
  let longest := runs.foldl max 0
  if longest < 2 then pieceText pieces
  else
    let start := runs.idxOf longest
    pieceText (pieces.take start) ++ [':', ':'] ++ pieceText (pieces.drop (start + longest))

def Host.text : Host → List Char
  | .domain name => name
  | .ipv4 address =>
    List.intercalate ['.'] <| [3, 2, 1, 0].map fun place =>
      Nat.toDigits 10 (address / Nat.pow 256 place % 256)
  | .ipv6 pieces => '[' :: ipv6Text pieces ++ [']']

end DidMessaging.Url
