namespace DidMessaging.Url.Punycode

def digit (n : Nat) : Char := if n < 26 then Char.ofNat (97 + n) else Char.ofNat (22 + n)

def value? (c : Char) : Option Nat :=
  if c.isLower then some (c.toNat - 97)
  else if c.isDigit then some (c.toNat - 22)
  else none

def threshold (bias k : Nat) : Nat := min 26 (max 1 (k - bias))

def adaptRounds : (rounds : Nat) → (delta k : Nat) → Nat
  | 0, delta, k => k + 36 * delta / (delta + 38)
  | rounds + 1, delta, k =>
    if 455 < delta then adaptRounds rounds (delta / 35) (k + 36)
    else k + 36 * delta / (delta + 38)

def adapt (delta count : Nat) (first : Bool) : Nat :=
  let delta := if first then delta / 700 else delta / 2
  adaptRounds delta (delta + delta / count) 0

/-- A difference in digits of varying base; `rounds` bounds their number. -/
def difference (bias : Nat) : (rounds : Nat) → (k q : Nat) → List Char
  | 0, _, q => [digit q]
  | rounds + 1, k, q =>
    let t := threshold bias k
    if q < t then [digit q]
    else digit (t + (q - t) % (36 - t)) :: difference bias rounds (k + 36) ((q - t) / (36 - t))

structure State where
  output : List Char
  delta : Nat
  bias : Nat
  handled : Nat

def visit (basic code : Nat) (state : State) (c : Char) : State :=
  if c.toNat < code then { state with delta := state.delta + 1 }
  else if c.toNat = code then
    { output := state.output ++ difference state.bias (state.delta + 1) 36 state.delta
      delta := 0
      bias := adapt state.delta (state.handled + 1) (state.handled = basic)
      handled := state.handled + 1 }
  else state

def insertAll (label : List Char) (basic : Nat) : (codes : List Nat) → (next : Nat) → State → State
  | [], _, state => state
  | code :: codes, next, state =>
    let state := { state with delta := state.delta + (code - next) * (state.handled + 1) }
    let state := label.foldl (visit basic code) state
    insertAll label basic codes (code + 1) { state with delta := state.delta + 1 }

def encode (label : List Char) : List Char :=
  let plain := label.filter fun c => c.toNat < 128
  let codes := ((label.filter fun c => 128 ≤ c.toNat).map Char.toNat).mergeSort.eraseDups
  let output := if plain.isEmpty then [] else plain ++ ['-']
  (insertAll label plain.length codes 128 ⟨output, 0, 72, plain.length⟩).output

def limit : Nat := Nat.pow 2 32

/-- A label that is read from differences: the last character put in is `code`, and the next goes
`place` places on, as far as the digits of this difference are read. The difference before ended at
`start`. -/
structure Reading where
  output : List Char
  code : Nat := 128
  place : Nat := 0
  start : Nat := 0
  weight : Nat := 1
  k : Nat := 36
  bias : Nat := 72

def put (reading : Reading) (place : Nat) : Option Reading :=
  let count := reading.output.length + 1
  let code := reading.code + place / count
  if code.isValidChar then
    some
      { output := reading.output.insertIdx (place % count) (Char.ofNat code)
        code := code
        place := place % count + 1
        start := place % count + 1
        bias := adapt (place - reading.start) count (reading.start = 0) }
  else none

def readDigit (reading : Reading) (c : Char) : Option Reading := do
  let digit ← value? c
  let place := reading.place + digit * reading.weight
  let t := threshold reading.bias reading.k
  let weight := reading.weight * (36 - t)
  if limit ≤ place then none
  else if digit < t then put reading place
  else if limit ≤ weight then none
  else some { reading with place := place, weight := weight, k := reading.k + 36 }

def decode (s : List Char) : Option (List Char) := do
  let digits := (s.reverse.takeWhile (· ≠ '-')).reverse
  let plain := s.take (s.length - digits.length - 1)
  let digits := if plain.isEmpty then s else digits
  let reading ← digits.foldlM readDigit { output := plain }
  if reading.k = 36 then some reading.output else none

end DidMessaging.Url.Punycode
