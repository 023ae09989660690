import DidMessaging.Json.Scan
import Mathlib.Tactic.SplitIfs
import Mathlib.Data.List.TakeWhile

namespace DidMessaging.Json

/-- What may follow a value: nothing, or what holds the value before it together with the next. -/
def Ends (rest : List Char) : Prop := ∀ c ∈ rest.head?, c = ',' ∨ c = ']' ∨ c = '}'

theorem ends_nil : Ends [] := nofun

theorem ends_cons {c : Char} {s : List Char} (ending : c = ',' ∨ c = ']' ∨ c = '}') :
    Ends (c :: s) := by
  intro d same
  obtain rfl := Option.some.inj same
  exact ending

theorem skipBlank_cons {c : Char} (s : List Char) (visible : isBlank c = false) :
    skipBlank (c :: s) = c :: s := by
  simp [skipBlank, visible]

def withChar (c : Char) (read : Except Fault (List Char × List Char)) :
    Except Fault (List Char × List Char) :=
  read.map fun (content, rest) => (c :: content, rest)

theorem readText_simple {letter c : Char} (simple : simpleEscape? letter = some c)
    (s : List Char) : readText ('\\' :: letter :: s) = withChar c (readText s) := by
  have notUnit : letter ≠ 'u' := by rintro rfl; cases simple
  rw [readText]
  · simp only [simple]
    cases readText s <;> rfl
  · exact fun _ _ _ _ _ same _ => absurd same notUnit
  · exact notUnit

theorem readText_control {c : Char} (control : c.toNat < 32) (s : List Char) :
    readText ('\\' :: 'u' :: '0' :: '0' :: Text.Hex.digit (c.toNat / 16) ::
      Text.Hex.digit (c.toNat % 16) :: s) = withChar c (readText s) := by
  have zero : Text.Hex.value? '0' = some 0 := by decide
  have high : Text.Hex.value? (Text.Hex.digit (c.toNat / 16)) = some (c.toNat / 16) :=
    Text.Hex.value?_digit (by omega)
  have low : Text.Hex.value? (Text.Hex.digit (c.toNat % 16)) = some (c.toNat % 16) :=
    Text.Hex.value?_digit (by omega)
  have unit : unit? '0' '0' (Text.Hex.digit (c.toNat / 16)) (Text.Hex.digit (c.toNat % 16)) =
      some c.toNat := by
    simp only [unit?, zero, high, low, Option.bind_eq_bind, Option.bind_some, Option.pure_def]
    congr 1
    omega
  have notLow : isLowSurrogate c.toNat = false := by simp [isLowSurrogate]; omega
  have notHigh : isHighSurrogate c.toNat = false := by simp [isHighSurrogate]; omega
  rw [readText]
  simp only [unit, notLow, notHigh, Bool.false_eq_true, ↓reduceIte, Char.ofNat_toNat]
  cases readText s <;> rfl

theorem readText_plain {c : Char} (notQuote : c ≠ '"') (notBackslash : c ≠ '\\')
    (printable : ¬c.toNat < 32) (s : List Char) : readText (c :: s) = withChar c (readText s) := by
  rw [readText]
  · simp only [printable, ↓reduceIte]
    cases readText s <;> rfl
  · exact notQuote
  · exact notBackslash

theorem readText_escape (c : Char) (s : List Char) :
    readText (escape c ++ s) = withChar c (readText s) := by
  unfold escape
  split_ifs with quote backslash backspace feed newline carriage tab control
  · subst quote
    exact readText_simple rfl s
  · subst backslash
    exact readText_simple rfl s
  · subst backspace
    exact readText_simple rfl s
  · subst feed
    exact readText_simple rfl s
  · subst newline
    exact readText_simple rfl s
  · subst carriage
    exact readText_simple rfl s
  · subst tab
    exact readText_simple rfl s
  · exact readText_control control s
  · exact readText_plain quote backslash control s

theorem readText_escaped (content rest : List Char) :
    readText (content.flatMap escape ++ '"' :: rest) = .ok (content, rest) := by
  induction content with
  | nil => rfl
  | cons c content ih =>
      rw [List.flatMap_cons, List.append_assoc, readText_escape, ih]
      rfl

theorem textChars_append (s : String) (rest : List Char) :
    textChars s ++ rest = '"' :: (s.toList.flatMap escape ++ '"' :: rest) := by
  simp [textChars]

theorem takeWhile_digits {digits rest : List Char} (all : ∀ c ∈ digits, c.isDigit = true)
    (ends : Ends rest) :
    (digits ++ rest).takeWhile Char.isDigit = digits ∧
      (digits ++ rest).dropWhile Char.isDigit = rest := by
  have stops : rest.takeWhile Char.isDigit = [] ∧ rest.dropWhile Char.isDigit = rest := by
    cases rest with
    | nil => exact ⟨rfl, rfl⟩
    | cons c rest =>
        have notDigit : c.isDigit = false := by
          rcases ends c rfl with rfl | rfl | rfl <;> decide
        simp [notDigit]
  rw [List.takeWhile_append_of_pos all, List.dropWhile_append_of_pos all, stops.1, stops.2,
    List.append_nil]
  exact ⟨rfl, rfl⟩

theorem head_toDigits {n : Nat} (positive : 0 < n) :
    ∃ c tail, Nat.toDigits 10 n = c :: tail ∧ c ≠ '0' := by
  induction n using Nat.strongRecOn with
  | ind n ih =>
      by_cases single : n < 10
      · have notZero : ∀ n < 10, 0 < n → Nat.digitChar n ≠ '0' := by decide
        exact ⟨_, [], Nat.toDigits_of_lt_base single, notZero n single positive⟩
      · obtain ⟨c, tail, split, leading⟩ := ih (n / 10) (by omega) (by omega)
        refine ⟨c, tail ++ [Nat.digitChar (n % 10)], ?_, leading⟩
        rw [Nat.toDigits_of_base_le (by decide) (by omega), split, List.cons_append]

theorem readWhole_digits (n : Nat) {rest : List Char} (ends : Ends rest) :
    readWhole (Nat.toDigits 10 n ++ rest) = .ok (Nat.toDigits 10 n, rest) := by
  have all : ∀ c ∈ Nat.toDigits 10 n, c.isDigit = true := fun c member =>
    Nat.isDigit_of_mem_toDigits (by decide) (by decide) member
  rcases Nat.eq_zero_or_pos n with rfl | positive
  · have notDigit : (rest.head?.map Char.isDigit).getD false = false := by
      cases rest with
      | nil => rfl
      | cons c rest => rcases ends c rfl with rfl | rfl | rfl <;> rfl
    simp [Nat.toDigits_zero, readWhole, notDigit]
  · obtain ⟨c, tail, split, leading⟩ := head_toDigits positive
    obtain ⟨taken, dropped⟩ := takeWhile_digits all ends
    rw [split] at all taken dropped ⊢
    have digit : c.isDigit = true := all c (by simp)
    simp only [List.cons_append, digit, List.takeWhile_cons_of_pos,
      List.dropWhile_cons_of_pos, List.cons.injEq, true_and] at taken dropped
    rw [List.cons_append, readWhole]
    · simp only [digit, ↓reduceIte, taken, dropped]
    · exact leading

theorem readNumeral_digits (n : Nat) {rest : List Char} (ends : Ends rest) :
    readNumeral (Nat.toDigits 10 n ++ rest) = .ok (⟨Nat.toDigits 10 n, [], none⟩, rest) := by
  have noFraction : readFraction rest = .ok ([], rest) := by
    rw [readFraction]
    rintro s rfl
    rcases ends '.' rfl with same | same | same <;> cases same
  have noExponent : readExponent rest = .ok (none, rest) := by
    cases rest with
    | nil => rfl
    | cons c rest => rcases ends c rfl with rfl | rfl | rfl <;> rfl
  simp only [readNumeral, readWhole_digits n ends, bind, Except.bind, noFraction, noExponent]
  rfl

theorem readNumber_digits {n : Nat} (small : n < wordLimit) {rest : List Char} (ends : Ends rest) :
    readNumber false (Nat.toDigits 10 n ++ rest) = .ok (.natural n, rest) := by
  have value : (⟨Nat.toDigits 10 n, [], none⟩ : Numeral).value false = some (.natural n) := by
    simp [Numeral.value, Numeral.isInteger, small]
  simp only [readNumber, readNumeral_digits n ends, bind, Except.bind, value]
  rfl

end DidMessaging.Json
