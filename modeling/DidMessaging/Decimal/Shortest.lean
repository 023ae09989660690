import DidMessaging.Decimal.Double

namespace DidMessaging.Decimal

structure Scientific where
  digits : Nat
  exponent : Int
  deriving DecidableEq, Repr

namespace Double

def bounds (d : Double) : Nat × Nat :=
  -- In quarters of a unit, so that the midpoints between neighbours are whole numbers.
  let step := spacing d.units
  let below := if 1 < step ∧ d.units = Nat.pow 2 d.units.log2 then step else 2 * step
  (4 * d.units - below, 4 * d.units + 2 * step)

def tenTo : Int → Nat × Nat
  | .ofNat n => (Nat.pow 10 n, 1)
  | .negSucc n => (1, Nat.pow 10 (n + 1))

/-- Whether a decimal rounds to `d`; the bounds belong to an even significand. -/
def identifiedBy (d : Double) (decimal : Scientific) : Bool :=
  let (numerator, denominator) := tenTo decimal.exponent
  let (low, high) := d.bounds
  let scaled := 4 * decimal.digits * numerator * one
  if d.units / spacing d.units % 2 = 0 then
    low * denominator ≤ scaled ∧ scaled ≤ high * denominator
  else
    low * denominator < scaled ∧ scaled < high * denominator

def magnitude (d : Double) : Int :=
  let atLeast (exponent : Int) : Bool :=
    let (numerator, denominator) := tenTo exponent
    numerator * one ≤ d.units * denominator
  let exponents : List Int := (List.range 633).map fun (i : Nat) => 308 - (i : Int)
  (exponents.find? atLeast).getD (-324)

def onGrid (d : Double) (count : Nat) : Option Scientific :=
  let exponent := d.magnitude + 1 - count
  let (numerator, denominator) := tenTo exponent
  let grid := numerator * one
  let low : Scientific := ⟨d.units * denominator / grid, exponent⟩
  let high : Scientific :=
    if low.digits + 1 = Nat.pow 10 count then ⟨Nat.pow 10 (count - 1), exponent + 1⟩
    else ⟨low.digits + 1, exponent⟩
  let rest := d.units * denominator % grid
  match d.identifiedBy low, d.identifiedBy high with
  | true, true =>
    if 2 * rest < grid ∨ (2 * rest = grid ∧ low.digits % 2 = 0) then some low else some high
  | true, false => some low
  | false, true => some high
  | false, false => none

def shortest (d : Double) : Scientific :=
  ((List.range 17).findSome? fun i => d.onGrid (i + 1)).getD ⟨0, 0⟩

end Double

def positional (digits : List Char) (point : Int) : List Char :=
  if point ≤ 0 then
    ['0', '.'] ++ List.replicate point.natAbs '0' ++ digits
  else if digits.length ≤ point.toNat then
    digits ++ List.replicate (point.toNat - digits.length) '0' ++ ['.', '0']
  else
    digits.take point.toNat ++ '.' :: digits.drop point.toNat

def exponential (digits : List Char) (exponent : Int) : List Char :=
  let mark := ['e', if exponent < 0 then '-' else '+']
  let places := Nat.toDigits 10 exponent.natAbs
  match digits with
  | [] => []
  | [d] => d :: mark ++ places
  | d :: ds => d :: '.' :: ds ++ mark ++ places

/-- Positional from 10^-5 up to 10^16, exponential outside; zero is `0.0`. -/
def Double.chars (d : Double) : List Char :=
  if d.units = 0 then ['0', '.', '0'] else
    let decimal := d.shortest
    let digits := Nat.toDigits 10 decimal.digits
    let leading := decimal.exponent + digits.length - 1
    if -5 ≤ leading ∧ leading < 16 then positional digits (leading + 1)
    else exponential digits leading

end DidMessaging.Decimal
