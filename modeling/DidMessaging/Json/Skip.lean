import DidMessaging.Json.Scan

/-! Passing over the value of a member that nobody asks for: its syntax counts, its depth and the
size of its numbers do not. -/

namespace DidMessaging.Json

inductive Frame where
  | list
  | object
  deriving DecidableEq, Repr

def Frame.ended : Frame → Fault
  | .list => .endInList
  | .object => .endInObject

def Frame.closing : Frame → Char
  | .list => ']'
  | .object => '}'

def Frame.wanting : Frame → Fault
  | .list => .expectedCommaOrBracket
  | .object => .expectedCommaOrBrace

def Frame.skipName (frame : Frame) (s : List Char) : Except Fault (List Char) :=
  match frame with
  | .list => .ok s
  | .object =>
    match skipBlank s with
    | [] => .error .endInObject
    | c :: s => if c = '"' then do readColon (← skipText s) else .error .nameNotText

mutual

def skipFramed : (bound : Nat) → List Frame → List Char → Except Fault (List Char)
  | 0, _, _ => .error .endInValue
  | bound + 1, frames, s =>
    match skipBlank s with
    | [] => .error .endInValue
    | c :: s =>
      if c = 'n' then do skipRest bound frames (← readLiteral ['u', 'l', 'l'] s)
      else if c = 't' then do skipRest bound frames (← readLiteral ['r', 'u', 'e'] s)
      else if c = 'f' then do skipRest bound frames (← readLiteral ['a', 'l', 's', 'e'] s)
      else if c = '-' then do skipRest bound frames (← skipNumber s)
      else if c.isDigit then do skipRest bound frames (← skipNumber (c :: s))
      else if c = '"' then do skipRest bound frames (← skipText s)
      else if c = '[' then skipOpened bound .list frames s
      else if c = '{' then skipOpened bound .object frames s
      else .error .expectedValue

def skipOpened : (bound : Nat) → Frame → List Frame → List Char → Except Fault (List Char)
  | 0, _, _, _ => .error .endInValue
  | bound + 1, frame, frames, s =>
    match skipBlank s with
    | [] => .error frame.ended
    | c :: s =>
      if c = frame.closing then skipRest bound frames s
      else do skipFramed bound (frame :: frames) (← frame.skipName (c :: s))

def skipRest : (bound : Nat) → List Frame → List Char → Except Fault (List Char)
  | _, [], s => .ok s
  | 0, frame :: _, _ => .error frame.ended
  | bound + 1, frame :: frames, s =>
    match skipBlank s with
    | [] => .error frame.ended
    | c :: s =>
      if c = ',' then do skipFramed bound (frame :: frames) (← frame.skipName s)
      else if c = frame.closing then skipRest bound frames s
      else .error frame.wanting

end

/-- Every two steps consume a character. -/
def skipValue (s : List Char) : Except Fault (List Char) := skipFramed (2 * s.length + 2) [] s

end DidMessaging.Json
