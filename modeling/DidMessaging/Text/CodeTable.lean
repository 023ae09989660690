import DidMessaging.Text.Hex
import DidMessaging.Text.Split

/-! Tables of characters, written as lines of text. The entries of a line stand between blanks: a
code point or a range of them, such as `41-5a`, and after a colon the numbers that the table has for
it, such as `df:73.73`, all in hexadecimal. The characters are those of Unicode 17. -/

namespace DidMessaging.Text

structure CodeEntry where
  first : Nat
  last : Nat
  numbers : List Nat
  deriving DecidableEq, Repr

abbrev CodeTable := List CodeEntry

namespace CodeTable

def entry? (word : List Char) : Option CodeEntry := do
  let parts := splitAt (· = ':') word
  let bounds ← (splitAt (· = '-') (parts.headD [])).mapM (Hex.number? 16)
  let numbers ← (parts.tail.flatMap (splitAt (· = '.'))).mapM (Hex.number? 16)
  match bounds with
  | [code] => some ⟨code, code, numbers⟩
  | [first, last] => some ⟨first, last, numbers⟩
  | _ => none

def ofLines (lines : List String) : CodeTable :=
  lines.flatMap fun line => (splitAt (· = ' ') line.toList).filterMap entry?

def entryOf? (table : CodeTable) (c : Char) : Option CodeEntry :=
  table.find? fun entry => entry.first ≤ c.toNat ∧ c.toNat ≤ entry.last

def contains (table : CodeTable) (c : Char) : Bool := (table.entryOf? c).isSome

end CodeTable

end DidMessaging.Text
