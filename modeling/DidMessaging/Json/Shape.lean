import DidMessaging.Json.Skip
import DidMessaging.Json.Tree

namespace DidMessaging.Json

/-- The JSON form of a type: how a value is written, how it is read off a text with `levels` of
nesting left, and which values that were read whole it fits. -/
structure Shape (α : Type) where
  write : α → Json
  read : (levels : Nat) → Reader α
  fit : Json → Option α

namespace Shape

def text : Shape String where
  write s := .text s
  read _ s :=
    match skipBlank s with
    | '"' :: s => do
      let (content, rest) ← readText s
      return (String.ofList content, rest)
    | s => .error (mismatch "a string" s)
  fit
    | .text s => some s
    | _ => none

def flag : Shape Bool where
  write b := .flag b
  read _ s :=
    match skipBlank s with
    | 't' :: s => do
      let rest ← readLiteral ['r', 'u', 'e'] s
      return (true, rest)
    | 'f' :: s => do
      let rest ← readLiteral ['a', 'l', 's', 'e'] s
      return (false, rest)
    | s => .error (mismatch "a boolean" s)
  fit
    | .flag b => some b
    | _ => none

def countOf : Number → Except Fault UInt64
  | .natural n => .ok (UInt64.ofNat n)
  | .negative n => .error (.wrongValue (.number (.negative n)) "u64")
  | n => .error (.wrongKind (.number n) "u64")

def count : Shape UInt64 where
  write n := .number (.natural n.toNat)
  read _ s :=
    match skipBlank s with
    | [] => .error .endInValue
    | c :: s =>
      if c = '-' then do
        let (n, rest) ← readNumber true s
        return (← countOf n, rest)
      else if c.isDigit then do
        let (n, rest) ← readNumber false (c :: s)
        return (← countOf n, rest)
      else .error (mismatch "u64" (c :: s))
  fit
    | .number n => (countOf n).toOption
    | _ => none

def optional (shape : Shape α) : Shape (Option α) where
  write a := (a.map shape.write).getD .null
  read levels s :=
    match skipBlank s with
    | 'n' :: s => do
      let rest ← readLiteral ['u', 'l', 'l'] s
      return (none, rest)
    | s => do
      let (a, rest) ← shape.read levels s
      return (some a, rest)
  fit
    | .null => some none
    | value => (shape.fit value).map some

def list (shape : Shape α) : Shape (List α) where
  write as := .list (as.map shape.write)
  read levels s :=
    match skipBlank s with
    | '[' :: s => descend levels (fun levels => readList (shape.read levels)) s
    | s => .error (mismatch "a sequence" s)
  fit
    | .list elements => elements.mapM shape.fit
    | _ => none

def choose (name : α → String) (all : List α) (found : String) : Except Fault α :=
  match all.find? fun a => name a = found with
  | some a => .ok a
  | none => .error (.unknownChoice found (all.map name))

def readUnit : Reader Unit := fun s =>
  match skipBlank s with
  | 'n' :: s => do
    let rest ← readLiteral ['u', 'l', 'l'] s
    return ((), rest)
  | s => .error (mismatch "unit" s)

/-- A choice after the brace of its long form: the name as the only member, with a null value. What
stands there is held to the rules for names of members, so that all but a text is `nameNotText`. -/
def readChoiceObject (name : α → String) (all : List α) : Reader α := fun s => do
  match ← nextName true s with
  | none => .error .expectedValue
  | some s =>
    let (content, s) ← readText s
    let a ← choose name all (String.ofList content)
    let s ← readColon s
    let (_, s) ← readUnit s
    match skipBlank s with
    | [] => .error .endInObject
    | c :: rest => if c = '}' then .ok (a, rest) else .error .expectedValue

def choice (name : α → String) (all : List α) : Shape α where
  write a := .text (name a)
  read levels s :=
    match skipBlank s with
    | [] => .error .endInValue
    | c :: s =>
      if c = '"' then do
        let (content, rest) ← readText s
        return (← choose name all (String.ofList content), rest)
      else if c = '{' then descend levels (fun _ => readChoiceObject name all) s
      else .error .expectedValue
  fit
    | .text found => (choose name all found).toOption
    | .object [(found, .null)] => (choose name all found).toOption
    | _ => none

def maxLevels : Nat := 127

def parse (shape : Shape α) (s : String) : Except Fault α := do
  let (a, rest) ← shape.read maxLevels s.toList
  match skipBlank rest with
  | [] => return a
  | _ :: _ => .error .trailingText

def render (shape : Shape α) (a : α) : String := (shape.write a).render

end Shape

end DidMessaging.Json
