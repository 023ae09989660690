/-! Base64 in the url-safe alphabet. Padding may be left out, in whole or in part; all else is
refused that the encoder would not have written. -/

namespace DidMessaging.Text.Base64

inductive Fault where
  | foreign (byte : UInt8) (offset : Nat)
  | lastSymbol (byte : UInt8) (offset : Nat)
  | remainder
  deriving DecidableEq, Repr

def Fault.message : Fault → String
  | .foreign byte offset => s!"Invalid byte {byte.toNat}, offset {offset}."
  | .lastSymbol byte offset => s!"Invalid last symbol {byte.toNat}, offset {offset}."
  | .remainder => "Encoded text cannot have a 6-bit remainder."

def symbol (value : Nat) : UInt8 :=
  if value < 26 then UInt8.ofNat (65 + value)
  else if value < 52 then UInt8.ofNat (71 + value)
  else if value < 62 then UInt8.ofNat (value - 4)
  else if value = 62 then 45
  else 95

def value? (symbol : UInt8) : Option Nat :=
  let code := symbol.toNat
  if 65 ≤ code ∧ code ≤ 90 then some (code - 65)
  else if 97 ≤ code ∧ code ≤ 122 then some (code - 71)
  else if 48 ≤ code ∧ code ≤ 57 then some (code + 4)
  else if code = 45 then some 62
  else if code = 95 then some 63
  else none

def padding : UInt8 := 61

def encode : List UInt8 → List UInt8
  | a :: b :: c :: bytes =>
    let (a, b, c) := (a.toNat, b.toNat, c.toNat)
    symbol (a / 4) :: symbol (a % 4 * 16 + b / 16) :: symbol (b % 16 * 4 + c / 64) ::
      symbol (c % 64) :: encode bytes
  | [a, b] =>
    let (a, b) := (a.toNat, b.toNat)
    [symbol (a / 4), symbol (a % 4 * 16 + b / 16), symbol (b % 16 * 4)]
  | [a] => [symbol (a.toNat / 4), symbol (a.toNat % 4 * 16)]
  | [] => []

/-- The bytes of six-bit values; `none` if bits are left over that are not zero. -/
def regroup : List Nat → Option (List UInt8)
  | a :: b :: c :: d :: values => do
    let bytes ← regroup values
    return UInt8.ofNat (a * 4 + b / 16) :: UInt8.ofNat (b % 16 * 16 + c / 4) ::
      UInt8.ofNat (c % 4 * 64 + d) :: bytes
  | [a, b, c] =>
    if c % 4 = 0 then some [UInt8.ofNat (a * 4 + b / 16), UInt8.ofNat (b % 16 * 16 + c / 4)]
    else none
  | [a, b] => if b % 16 = 0 then some [UInt8.ofNat (a * 4 + b / 16)] else none
  | [_] => none
  | [] => some []

/-- Whether `rest` may follow `count` symbols: nothing, or padding within their last group. -/
def isPadding (count : Nat) (rest : List UInt8) : Bool :=
  rest.isEmpty ||
    (2 ≤ count % 4 && rest.all (· == padding) && count % 4 + rest.length ≤ 4)

def decode (bytes : List UInt8) : Except Fault (List UInt8) :=
  let symbols := bytes.takeWhile fun byte => (value? byte).isSome
  let rest := bytes.dropWhile fun byte => (value? byte).isSome
  if bytes.length % 4 = 1 then
    match bytes.getLast? with
    | some last =>
      if last = padding ∨ (value? last).isSome then .error .remainder
      else .error (.foreign last (bytes.length - 1))
    | none => .error .remainder
  else if isPadding symbols.length rest then
    match regroup (symbols.filterMap value?) with
    | some decoded => .ok decoded
    | none => .error (.lastSymbol (symbols.getLast?.getD 0) (symbols.length - 1))
  else .error (.foreign (rest.head?.getD padding) symbols.length)

end DidMessaging.Text.Base64
