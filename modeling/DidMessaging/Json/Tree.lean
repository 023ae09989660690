import DidMessaging.Json.Scan

namespace DidMessaging.Json

def readTree : (levels : Nat) → Reader Json
  | levels, s =>
    match skipBlank s with
    | [] => .error .endInValue
    | c :: s =>
      if c = 'n' then do
        let rest ← readLiteral ['u', 'l', 'l'] s
        return (.null, rest)
      else if c = 't' then do
        let rest ← readLiteral ['r', 'u', 'e'] s
        return (.flag true, rest)
      else if c = 'f' then do
        let rest ← readLiteral ['a', 'l', 's', 'e'] s
        return (.flag false, rest)
      else if c = '-' then do
        let (n, rest) ← readNumber true s
        return (.number n, rest)
      else if c.isDigit then do
        let (n, rest) ← readNumber false (c :: s)
        return (.number n, rest)
      else if c = '"' then do
        let (content, rest) ← readText s
        return (.text (String.ofList content), rest)
      else if c = '[' then
        match levels with
        | 0 => .error .tooDeep
        | levels + 1 => do
          let (elements, rest) ← readList (readTree levels) s
          return (.list elements, rest)
      else if c = '{' then
        match levels with
        | 0 => .error .tooDeep
        | levels + 1 => do
          let (members, rest) ← readObject (treeMember (readTree levels)) [] s
          return (.object members, rest)
      else .error .expectedValue
where
  treeMember (value : Reader Json) (members : List (String × Json)) (name : String) :
      Reader (List (String × Json)) := fun s => do
    let s ← readColon s
    let (v, rest) ← value s
    return (members ++ [(name, v)], rest)

end DidMessaging.Json
