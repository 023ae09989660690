namespace DidMessaging.Text.Hex

def digit (value : Nat) : Char := (['0', '1', '2', '3', '4', '5', '6', '7', '8', '9',
  'a', 'b', 'c', 'd', 'e', 'f'][value]?).getD '0'

def value? (c : Char) : Option Nat :=
  if '0' ≤ c ∧ c ≤ '9' then some (c.toNat - '0'.toNat)
  else if 'a' ≤ c ∧ c ≤ 'f' then some (c.toNat - 'a'.toNat + 10)
  else if 'A' ≤ c ∧ c ≤ 'F' then some (c.toNat - 'A'.toNat + 10)
  else none

def isDigit (c : Char) : Bool := (value? c).isSome

def number? (base : Nat) (s : List Char) : Option Nat :=
  s.foldlM (fun n c => do
    let digit ← value? c
    if digit < base then some (n * base + digit) else none) 0

theorem value?_digit {value : Nat} (small : value < 16) : value? (digit value) = some value := by
  have all : ∀ value ∈ List.range 16, value? (digit value) = some value := by decide
  exact all value (List.mem_range.2 small)

end DidMessaging.Text.Hex
