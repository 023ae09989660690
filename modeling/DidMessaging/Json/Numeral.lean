import DidMessaging.Json.Fault

namespace DidMessaging.Json

structure Numeral where
  whole : List Char
  fraction : List Char := []
  exponent : Option (Bool × List Char) := none
  deriving DecidableEq, Repr

def endOr (fault : Fault) (s : List Char) : Fault :=
  if s.isEmpty then .endInValue else fault

def readWhole : List Char → Except Fault (List Char × List Char)
  | [] => .error .endInValue
  | '0' :: s =>
    if (s.head?.map Char.isDigit).getD false then .error .invalidNumber else .ok (['0'], s)
  | c :: s =>
    if c.isDigit then .ok (c :: s.takeWhile Char.isDigit, s.dropWhile Char.isDigit)
    else .error .invalidNumber

def readDigits (s : List Char) : Except Fault (List Char × List Char) :=
  match s.takeWhile Char.isDigit with
  | [] => .error (endOr .invalidNumber s)
  | digits => .ok (digits, s.dropWhile Char.isDigit)

def readFraction : List Char → Except Fault (List Char × List Char)
  | '.' :: s => readDigits s
  | s => .ok ([], s)

def readSign : List Char → Bool × List Char
  | '-' :: s => (true, s)
  | '+' :: s => (false, s)
  | s => (false, s)

def readExponent : List Char → Except Fault (Option (Bool × List Char) × List Char)
  | c :: s =>
    if c = 'e' ∨ c = 'E' then do
      let (isNegative, s) := readSign s
      let (digits, rest) ← readDigits s
      return (some (isNegative, digits), rest)
    else .ok (none, c :: s)
  | [] => .ok (none, [])

def readNumeral (s : List Char) : Except Fault (Numeral × List Char) := do
  let (whole, s) ← readWhole s
  let (fraction, s) ← readFraction s
  let (exponent, s) ← readExponent s
  return (⟨whole, fraction, exponent⟩, s)

def wordLimit : Nat := 0x10000000000000000

def significand : Nat → List Char → Nat × List Char
  | n, [] => (n, [])
  | n, c :: s =>
    let extended := n * 10 + (c.toNat - '0'.toNat)
    if extended < wordLimit then significand extended s else (n, c :: s)

def Numeral.isInteger (n : Numeral) : Bool := n.fraction.isEmpty && n.exponent.isNone

def Numeral.power (n : Numeral) : Int :=
  match n.exponent with
  | none => 0
  | some (true, digits) => -(Nat.ofDigitChars 10 digits 0 : Int)
  | some (false, digits) => Nat.ofDigitChars 10 digits 0

/-- Digits that no longer fit into the significand count as places before the point
and as nothing after it. -/
def Numeral.magnitude (n : Numeral) : Option Decimal.Double :=
  let (whole, skipped) := significand 0 n.whole
  let (digits, dropped) := significand whole n.fraction
  let places : Int := skipped.length - (n.fraction.length - dropped.length)
  Decimal.Double.ofScientific digits (places + n.power)

def Numeral.value (n : Numeral) (isNegative : Bool) : Option Number :=
  let integer := Nat.ofDigitChars 10 n.whole 0
  -- Zero with a sign is no integer, for it keeps the sign as a double.
  if n.isInteger ∧ !isNegative ∧ integer < wordLimit then some (.natural integer)
  else if n.isInteger ∧ isNegative ∧ 0 < integer ∧ 2 * integer ≤ wordLimit then
    some (.negative integer)
  else n.magnitude.map (.real isNegative)

def readNumber (isNegative : Bool) (s : List Char) : Except Fault (Number × List Char) := do
  let (numeral, rest) ← readNumeral s
  match numeral.value isNegative with
  | some n => return (n, rest)
  | none => .error .numberTooLarge

/-- Passes over a number that nobody asks for, whatever its size. -/
def skipNumber (s : List Char) : Except Fault (List Char) :=
  match readNumeral s with
  | .ok (_, rest) => .ok rest
  | .error _ => .error .invalidNumber

end DidMessaging.Json
