/-! Non-negative double-precision numbers in exact arithmetic. -/

namespace DidMessaging.Decimal

/-- A double-precision magnitude, counted in units of its finest spacing, 2^-1074. -/
structure Double where
  units : Nat
  deriving DecidableEq, Repr

namespace Double

def one : Nat := Nat.pow 2 1074

def spacing (units : Nat) : Nat := Nat.pow 2 (units.log2 + 1 - 53)

def nearest (numerator denominator : Nat) : Double :=
  let scaled := numerator * one
  let step := spacing (scaled / denominator)
  let divisor := denominator * step
  let low := scaled / divisor
  let rest := scaled % divisor
  -- A tie goes to the even neighbour.
  if divisor < 2 * rest ∨ (divisor = 2 * rest ∧ low % 2 = 1) then
    ⟨(low + 1) * step⟩
  else
    ⟨low * step⟩

def ofNat (n : Nat) : Double := nearest n 1

def mul (a b : Double) : Double := nearest (a.units * b.units) (one * one)

def div (a b : Double) : Double := nearest a.units b.units

def isFinite (d : Double) : Bool := d.units < Nat.pow 2 1024 * one

def shiftDown : (rounds : Nat) → Double → (places : Nat) → Double
  | 0, d, _ => d
  | rounds + 1, d, places =>
    if places ≤ 308 then d.div (ofNat (Nat.pow 10 places))
    else shiftDown rounds (d.div (ofNat (Nat.pow 10 308))) (places - 308)

/-- A significand times a power of ten, rounded after each step; `none` when out of range.
Three rounds of 308 places take every 64-bit significand to zero. -/
def ofScientific (significand : Nat) (exponent : Int) : Option Double :=
  let d := ofNat significand
  match exponent with
  | .negSucc places => some (shiftDown 3 d (places + 1))
  | .ofNat places =>
    if d.units = 0 then some d
    else if places ≤ 308 then
      let product := d.mul (ofNat (Nat.pow 10 places))
      if product.isFinite then some product else none
    else none

end Double

end DidMessaging.Decimal
