import DidMessaging.Json.Fault

namespace DidMessaging.Json

def unit? (a b c d : Char) : Option Nat := do
  let a ← Text.Hex.value? a
  let b ← Text.Hex.value? b
  let c ← Text.Hex.value? c
  let d ← Text.Hex.value? d
  return ((a * 16 + b) * 16 + c) * 16 + d

def isHighSurrogate (unit : Nat) : Bool := 0xD800 ≤ unit ∧ unit ≤ 0xDBFF

def isLowSurrogate (unit : Nat) : Bool := 0xDC00 ≤ unit ∧ unit ≤ 0xDFFF

def pairedChar (high low : Nat) : Char :=
  Char.ofNat ((high - 0xD800) * 0x400 + (low - 0xDC00) + 0x10000)

def simpleEscape? : Char → Option Char
  | '"' => some '"'
  | '\\' => some '\\'
  | '/' => some '/'
  | 'b' => some '\x08'
  | 'f' => some '\x0c'
  | 'n' => some '\n'
  | 'r' => some '\r'
  | 't' => some '\t'
  | _ => none

/-- Fewer than four characters follow `\u`: the text has ended unless they fill four bytes. -/
def shortUnit (s : List Char) : Fault :=
  if (String.ofList s).utf8ByteSize < 4 then .endInText else .invalidEscape

def brokenPair : List Char → Fault
  | [] => .endInText
  | ['\\'] => .endInText
  | '\\' :: 'u' :: s => shortUnit s
  | _ => .brokenPair

def readText : List Char → Except Fault (List Char × List Char)
  | [] => .error .endInText
  | '"' :: s => .ok ([], s)
  | '\\' :: s =>
    match s with
    | [] => .error .endInText
    | 'u' :: a :: b :: c :: d :: s =>
      match unit? a b c d with
      | none => .error .invalidEscape
      | some unit =>
        if isLowSurrogate unit then .error .loneSurrogate
        else if isHighSurrogate unit then
          match s with
          | '\\' :: 'u' :: a :: b :: c :: d :: s =>
            match unit? a b c d with
            | none => .error .invalidEscape
            | some low =>
              if isLowSurrogate low then do
                let (content, rest) ← readText s
                return (pairedChar unit low :: content, rest)
              else .error .loneSurrogate
          | s => .error (brokenPair s)
        else do
          let (content, rest) ← readText s
          return (Char.ofNat unit :: content, rest)
    | 'u' :: s => .error (shortUnit s)
    | c :: s =>
      match simpleEscape? c with
      | none => .error .invalidEscape
      | some c => do
        let (content, rest) ← readText s
        return (c :: content, rest)
  | c :: s =>
    if c.toNat < 32 then .error .controlCharacter
    else do
      let (content, rest) ← readText s
      return (c :: content, rest)

def skipText : List Char → Except Fault (List Char)
  | [] => .error .endInText
  | '"' :: s => .ok s
  | '\\' :: s =>
    match s with
    | [] => .error .endInText
    | 'u' :: a :: b :: c :: d :: s =>
      if (unit? a b c d).isSome then skipText s else .error .invalidEscape
    | 'u' :: s => .error (shortUnit s)
    | c :: s => if (simpleEscape? c).isSome then skipText s else .error .invalidEscape
  | c :: s => if c.toNat < 32 then .error .controlCharacter else skipText s

end DidMessaging.Json
